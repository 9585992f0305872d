import NvidiaConverge.Launchers.Shown

/-!
# A systemd that prints

The ideal systemd, observed as the code observes a real one: through the text that `systemctl show`
prints. Properties without line breaks are read back as they were printed: `parse_printed`.
-/

namespace NvidiaConverge

/-! ## What it prints -/

/-- A unit, and whether systemd still has the unit files in memory that it read before the mask. -/
structure PrintedUnit extends SystemdUnit where
  stale : Bool := false
  deriving DecidableEq

namespace PrintedUnit

/-- The `LoadState` of a unit: a masked one stays loaded until the unit files are read again. -/
def loadState (state : PrintedUnit) : String :=
  if state.masked && !state.stale then "masked"
  else if state.fragment = .missing then "not-found" else "loaded"

/-- The line that `systemctl show` prints for one property. -/
def propertyLine (value : String → String) (name : String) : List Char :=
  name.toList ++ '=' :: (value name).toList

/-- The text has no line break, no NUL and no bracket. -/
def plain (text : String) : Bool :=
  text.toList.all fun c => !Text.isLineBreak c && c != Char.ofNat 0 && c != '['

/-- What `systemctl show` prints of these properties. -/
def printed (names : List String) (value : String → String) : CommandResult where
  command := ["systemctl", "show"]
  returncode := some 0
  stdout := String.ofList ((names.map (propertyLine value)).flatMap (· ++ [Char.ofNat 10]))

/-- The properties of a unit; those of its commands and mounts are empty. -/
def property (unit : Launcher) (state : PrintedUnit) : String → String
  | "Id" => unit.unit
  | "LoadState" => state.loadState
  | "ActiveState" => if state.active then "active" else "inactive"
  | "UnitFileState" => if state.fileState = .notFound then "" else state.fileState.value
  | "SubState" =>
      if state.active then if unit = .dockerSocket then "listening" else "running" else "dead"
  | "MainPID" => if state.active then "1" else "0"
  | "FragmentPath" =>
      if state.loadState = "masked" then "/etc/systemd/system/" ++ unit.unit
      else if state.fragment = .missing then "" else "/usr/lib/systemd/system/" ++ unit.unit
  | "Triggers" => if state.loadState = "loaded" then dockerServiceUnit else ""
  | _ => ""

/-- What the audit and the rollback read of a unit. -/
def shownState (unit : Launcher) (state : PrintedUnit) : CommandResult :=
  printed stateProperties (state.property unit)

/-- What the audit reads of a unit as it is printed. -/
def auditedPrinted (unit : Launcher) (state : PrintedUnit) : UnitState :=
  parseServiceState (state.shownState unit) unit.unit

/-- What the trusted observers read of a unit. -/
def shownFull (unit : Launcher) (state : PrintedUnit) : CommandResult :=
  printed (trustedProperties unit) (state.property unit)

/-- The files and the process of a unit, all trusted or none. -/
def trustHost (state : PrintedUnit) : TrustHost where
  systemctl := true
  bindActive unit _ _ :=
    if state.trusted then .ok (SystemdUnit.process unit) else .error "not trusted"
  bindInactive _ _ := if state.trusted then .ok () else .error "not trusted"
  bindSocket _ := if state.trusted then .ok state.socket else .error "not trusted"
  maskPath _ _ := .ok ()

/-- What a unit answers, read by the code from what systemd prints. -/
def read (base : HostAudit) : (op : HostOp) → PrintedUnit → op.Reply
  | .observe unit, state => observeServiceState (state.shownState unit) unit.unit
  | .validateSocket allowMasked, state =>
      validateTrustedDockerSocketUnit state.trustHost allowMasked (state.shownFull .dockerSocket)
  | .validateService unit allowMasked, state =>
      validateTrustedGpuServiceUnit state.trustHost unit allowMasked (state.shownFull unit)
  | .validateActive unit expected, state =>
      validateActiveTrustedGpuService state.trustHost unit expected (state.shownFull unit)
  | .observeTrusted unit, state =>
      ((observeTrustedService state.trustHost unit (state.shownFull unit)).1,
        (observeTrustedService state.trustHost unit (state.shownFull unit)).2.map
          TrustedServiceObservation.active)
  | op, state => state.toSystemdUnit.read base op

/-- A command, and what it does; every command but a start or a stop reads the unit files again. -/
def command (verb : SystemctlVerb) (unit : Launcher) (state : PrintedUnit) :
    CommandResult × PrintedUnit :=
  let answer := state.toSystemdUnit.command verb unit
  (answer.1, { answer.2 with stale := state.stale && (verb == .start || verb == .stop) })

end PrintedUnit

/-- The record that holds a state for each of the four launchers. -/
def LauncherStates.each (state : Launcher → UnitState) : LauncherStates where
  dockerSocket := state .dockerSocket
  dockerService := state .dockerService
  nvidiaPersistenced := state .nvidiaPersistenced
  fabricManager := state .fabricManager

theorem LauncherStates.of_each {state : Launcher → UnitState} {unit : Launcher} :
    (LauncherStates.each state).of unit = state unit := by
  cases unit <;> rfl

/-- The ideal systemd, observed through what it prints. -/
def printedSystemd (base : HostAudit) : LauncherWorld PrintedUnit where
  read := PrintedUnit.read base
  command := PrintedUnit.command
  audited unit state := state.auditedPrinted unit
  audit states :=
    { base with
      launchers := .each fun unit => (states unit).auditedPrinted unit }
  probe _ _ := ({ command := ["probe-active-gpu-workloads"], returncode := some 0 }, some [])
  audit_launchers states unit :=
    @LauncherStates.of_each (fun unit => (states unit).auditedPrinted unit) unit

/-! ## Reading it back -/

namespace PrintedUnit

/-- The names and the values of the properties are plain. -/
def Plain (names : List String) (value : String → String) : Prop :=
  ∀ name ∈ names, plain name = true ∧ plain (value name) = true

variable {names : List String} {value : String → String}

/-- No character of a plain line breaks it or opens a bracket. -/
theorem Plain.char (h : Plain names value) {name : String} (hname : name ∈ names) {c : Char}
    (hc : c ∈ propertyLine value name) : Text.isLineBreak c = false ∧ c ≠ '[' := by
  obtain ⟨hplain, hvalue⟩ := h name hname
  simp only [plain, List.all_eq_true, Bool.and_eq_true, Bool.not_eq_true', bne_iff_ne]
    at hplain hvalue
  rcases List.mem_append.mp hc with hc | hc
  · exact ⟨(hplain c hc).1.1, (hplain c hc).2⟩
  · rcases List.mem_cons.mp hc with rfl | hc
    · decide
    · exact ⟨(hvalue c hc).1.1, (hvalue c hc).2⟩

/-- The lines of printed plain properties are the lines that were printed. -/
theorem lines_printed (h : Plain names value) :
    Text.lines (printed names value).stdout =
      names.map fun name => String.ofList (propertyLine value name) := by
  unfold Text.lines printed
  rw [String.toList_ofList, Text.split_lines_join, List.map_map]
  · rfl
  · intro text htext
    obtain ⟨name, hname, rfl⟩ := List.mem_map.mp htext
    exact fun c hc => (h.char hname hc).1

/-- A printed text of plain properties is whole. -/
theorem printed_whole (h : Plain names value) : isWhole (printed names value) = true := by
  have hnone : '[' ∉ (printed names value).stdout.toList := by
    unfold printed
    rw [String.toList_ofList]
    intro hmem
    obtain ⟨line, hline, hc⟩ := List.mem_flatMap.mp hmem
    obtain ⟨name, hname, rfl⟩ := List.mem_map.mp hline
    rcases List.mem_append.mp hc with hc | hc
    · exact (h.char hname hc).2 rfl
    · exact absurd hc (by decide)
  have hwhole : Text.contains (printed names value).stdout "[output truncated:" = false := by
    by_contra hcontains
    exact hnone (Text.head_mem_of_infix_of (Bool.of_not_eq_false hcontains))
  simp only [isWhole, outputTruncated, hwhole]
  rfl

end PrintedUnit

/-- Printed lines are read as the properties with their values. -/
theorem read_printed {names : List String} {value : String → String}
    (hnodup : names.Nodup) (hname : ∀ name ∈ names, '=' ∉ name.toList) :
    readProperties names (names.map fun name =>
        String.ofList (PrintedUnit.propertyLine value name)) =
      some (names.map fun name => (name, value name)) := by
  have hpairs : (names.map fun name => String.ofList (PrintedUnit.propertyLine value name)).mapM
      (Text.partition? '=') = some (names.map fun name => (name, value name)) := by
    clear hnodup
    induction names with
    | nil => rfl
    | cons name names ih =>
        have hfirst : Text.partition? '=' (String.ofList (PrintedUnit.propertyLine value name)) =
            some (name, value name) := by
          unfold Text.partition? PrintedUnit.propertyLine
          rw [String.toList_ofList, Text.split_first_append _ (hname name List.mem_cons_self)]
          simp
        rw [List.map_cons, List.mapM_cons, hfirst,
          ih fun other hother => hname other (List.mem_cons_of_mem _ hother)]
        rfl
  have hkeys : (names.map fun name => (name, value name)).map Prod.fst = names := by
    rw [List.map_map]
    exact List.map_id' names
  unfold readProperties
  rw [hpairs]
  show (if _ then some _ else none) = _
  rw [hkeys, if_pos ⟨hnodup, fun _ h => h, fun _ h => h⟩]

/-- The value of a printed property is the one that was printed. -/
theorem value_printed {names : List String} {value : String → String} {name : String}
    (h : name ∈ names) :
    Properties.value (names.map fun name => (name, value name)) name = value name := by
  unfold Properties.value
  induction names with
  | nil => cases h
  | cons first names ih =>
      rw [List.map_cons, List.lookup_cons]
      by_cases heq : name = first
      · simp [heq]
      · rw [beq_false_of_ne heq]
        exact ih ((List.mem_cons.mp h).resolve_left heq)

/-- The trusted observers read the same properties. -/
theorem parse_printed {names : List String} {value : String → String} (hnodup : names.Nodup)
    (hname : ∀ name ∈ names, '=' ∉ name.toList) (hplain : PrintedUnit.Plain names value) :
    parseTrustedProperties names (PrintedUnit.printed names value).stdout =
      some (names.map fun name => (name, value name)) := by
  have hkeep : (names.map fun name => String.ofList (PrintedUnit.propertyLine value name)).filter
      (· ≠ "") = names.map fun name => String.ofList (PrintedUnit.propertyLine value name) := by
    rw [List.filter_eq_self]
    intro line hmem
    obtain ⟨name, -, rfl⟩ := List.mem_map.mp hmem
    refine decide_eq_true fun heq => ?_
    have hempty := congrArg String.toList heq
    rw [String.toList_ofList] at hempty
    exact absurd hempty (by simp [PrintedUnit.propertyLine])
  have hzero : ∀ property ∈ names.map fun name => (name, value name),
      Char.ofNat 0 ∉ property.2.toList := by
    intro property hmem hnul
    obtain ⟨name, hin, rfl⟩ := List.mem_map.mp hmem
    have hvalue := (hplain name hin).2
    simp only [PrintedUnit.plain, List.all_eq_true, Bool.and_eq_true, bne_iff_ne] at hvalue
    exact (hvalue _ hnul).1.2 rfl
  unfold parseTrustedProperties
  rw [PrintedUnit.lines_printed hplain, hkeep, read_printed hnodup hname]
  exact if_pos hzero

/-! ## A unit as it is printed -/

section

variable {unit : Launcher}

/-- Every property of a printed unit is plain text. -/
theorem PrintedUnit.property_plain (unit : Launcher) (state : PrintedUnit) (name : String) :
    plain (state.property unit name) = true := by
  unfold property
  split
  · cases unit <;> decide
  · unfold loadState
    split_ifs <;> decide
  · split_ifs <;> decide
  · cases state.fileState <;> decide
  · split_ifs <;> decide
  · split_ifs <;> decide
  · cases unit <;> split_ifs <;> decide
  · split_ifs <;> decide
  · decide

/-- The properties that the audit and the rollback ask for are printed plainly. -/
theorem state_properties_plain (unit : Launcher) (state : PrintedUnit) :
    PrintedUnit.Plain stateProperties (state.property unit) := fun name hname =>
  ⟨(show ∀ name ∈ stateProperties, PrintedUnit.plain name = true by decide) name hname,
    PrintedUnit.property_plain unit state name⟩

/-- The properties that the trusted observers ask for are printed plainly. -/
theorem trusted_properties_plain (unit : Launcher) (state : PrintedUnit) :
    PrintedUnit.Plain (trustedProperties unit) (state.property unit) := by
  intro name hname
  have hnames : ∀ name ∈ trustedProperties unit, PrintedUnit.plain name = true := by
    cases unit <;> decide
  exact ⟨hnames name hname, PrintedUnit.property_plain unit state name⟩

/-- The state that is printed of a unit is read back, property by property. -/
theorem shown_state_read (unit : Launcher) (state : PrintedUnit) :
    readProperties stateProperties (Text.lines (state.shownState unit).stdout) =
      some (stateProperties.map fun name => (name, state.property unit name)) := by
  unfold PrintedUnit.shownState
  rw [PrintedUnit.lines_printed (state_properties_plain unit state)]
  exact read_printed (by decide) (by decide)

/-- What the trusted observers print of a unit is read back. -/
theorem shown_full_parsed (unit : Launcher) (state : PrintedUnit) :
    parseTrustedProperties (trustedProperties unit) (state.shownFull unit).stdout =
      some ((trustedProperties unit).map fun name => (name, state.property unit name)) := by
  refine parse_printed ?_ ?_ (trusted_properties_plain unit state)
  · cases unit <;> decide
  · cases unit <;> decide

end

/-! ## A unit that is masked and still active -/

/-- A unit whose quarantine was cut off behind its mask; `stale` says whether systemd still has the
unit files from before the mask. -/
def interruptedUnit (stale : Bool) : PrintedUnit :=
  { runningUnit with masked := true, stale }

/-- What the stop of such a unit leaves: masked and inactive. -/
def stoppedUnit (stale : Bool) : PrintedUnit :=
  { runningUnit with masked := true, active := false, stale }

/-- The load state that systemd prints for it. -/
def interruptedLoadState (stale : Bool) : String :=
  if stale then "loaded" else "masked"

/-- A unit that is masked and still active is printed as such, with the load state of its files in
memory, and its files and its process are authentic. -/
theorem interrupted_unit_shown (unit : Launcher) (stale : Bool) :
    ShownMaskedActive (interruptedUnit stale).trustHost unit (interruptedLoadState stale)
      ((interruptedUnit stale).shownState unit) ((interruptedUnit stale).shownFull unit) where
  load := by cases stale <;> decide
  whole := PrintedUnit.printed_whole (state_properties_plain unit _)
  printed := by
    refine ⟨_, shown_state_read unit _, ?_, ?_, ?_, ?_⟩
    all_goals
      rw [value_printed (by decide)]
    · rfl
    · cases stale <;> rfl
    · rfl
    · cases unit <;> cases stale <;> decide
  full := by
    have hmem : ∀ name ∈ ["Id", "LoadState", "ActiveState", "SubState", "FragmentPath"],
        name ∈ trustedProperties unit := by
      cases unit <;> decide
    refine ⟨_, shown_full_parsed unit _, ?_, ?_, ?_, fun hloaded => ?_⟩
    · rw [value_printed (hmem _ (by decide))]
      rfl
    · rw [value_printed (hmem _ (by decide))]
      cases stale <;> rfl
    · rw [value_printed (hmem _ (by decide))]
      rfl
    · refine ⟨rfl, rfl, fun hsocket => ?_, fun hservice => ?_⟩
      · rw [value_printed (hmem _ (by decide))]
        subst hsocket
        exact ⟨rfl, _, rfl⟩
      · have hpid : "MainPID" ∈ trustedProperties unit := by
          rw [trustedProperties, if_neg hservice]
          decide
        rw [value_printed (hmem _ (by decide)), value_printed (hmem _ (by decide)),
          value_printed hpid]
        refine ⟨?_, ?_, ?_, ?_, _, rfl⟩
        · show (if unit = .dockerSocket then "listening" else "running") = "running"
          rw [if_neg hservice]
        · cases unit <;> cases stale <;> decide
        · show Text.isDigitText "1" = true
          decide
        · show Text.decimalValue "1" ≠ 0
          decide

/-- A stopped unit is printed as masked and inactive. -/
theorem stopped_unit_shown (unit : Launcher) (stale : Bool) :
    ShownMaskedInactive unit ((stoppedUnit stale).shownState unit)
      ((stoppedUnit stale).shownFull unit) where
  whole := PrintedUnit.printed_whole (state_properties_plain unit _)
  printed := by
    refine ⟨_, shown_state_read unit _, ?_, ?_, ?_, ?_⟩
    all_goals
      rw [value_printed (by decide)]
    · rfl
    · cases stale
      · exact .inr rfl
      · exact .inl rfl
    · rfl
    · cases unit <;> cases stale <;> decide
  service := by
    intro hservice
    have hproperties : trustedProperties unit = serviceProperties := if_neg hservice
    have hparsed := shown_full_parsed unit (stoppedUnit stale)
    rw [hproperties] at hparsed
    refine ⟨rfl, _, hparsed, ?_, ?_, ?_, ?_, ?_, ?_⟩
    all_goals
      rw [value_printed (by decide)]
    · rfl
    · cases unit <;> cases stale <;> decide
    · rfl
    · rfl
    · show Text.isDigitText "0" = true
      decide
    · show Text.decimalValue "0" = 0
      decide

end NvidiaConverge
