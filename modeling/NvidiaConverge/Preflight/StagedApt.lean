import NvidiaConverge.Preflight.AptSimulation
import NvidiaConverge.Preflight.StagedPlan

/-!
# The staged transaction under APT

The local check simulates with `--purge`, so it reads no removal. `apt_local_iff` says which
transactions it accepts.
-/

namespace NvidiaConverge

open Posix (AbsolutePath)

variable {desired : DesiredState} {audit : HostAudit} {manager : PackageManager}
  {snapshot : RollbackSnapshot} {path : AbsolutePath} {bundle : PackagePayloadBundle}
  {access : PayloadAccess} {actions bound : List PlanAction} {command : List String}
  {package : PackageInfo}
  {parseXml : String → Option XmlElement} {run : List String → CommandResult}

/-- The states of the audited identities that the local check expects a transaction with some
removal operands to remove. -/
def expectedRemovals (audit : HostAudit) (native : String) (removeSpecs : List String) :
    Set PackageState :=
  {state | ∃ spec ∈ removeSpecs, ∃ identity,
    aptOperandIdentity (currentAptIdentities audit native) native spec = .ok identity ∧
      aptState identity = state}

/-- Without a removal operand, no removal is expected. -/
theorem expected_removals_nil {audit : HostAudit} {native : String} :
    expectedRemovals audit native [] = ∅ := by
  ext state
  simp [expectedRemovals]

/-- The solver's answer for the staged files to a transcript of the repositories: it simulates with
`--purge`, and the lines that it prints install and remove the same packages. -/
structure AptAnswer (result : CommandResult) (audit : HostAudit) (native : String)
    (lines : List SimulationLine) (answer : CommandResult) : Prop where
  succeeded : answer.returncode = some 0
  complete : outputTruncated answer = false
  printed : answer.stdout = printedSimulation lines
  wellFormed : ∀ line ∈ lines, line.WellFormed
  slots : ((simulatedInstalls lines).map AptInstall.slot).Nodup
  installs : ∀ install, install ∈ simulatedInstalls lines ↔ install ∈ transcriptInstalls result
  removals : ∀ state, (∃ identity ∈ simulatedRemovals lines, aptState identity = state) ↔
    state ∈ (aptOutcome result audit native).removals

/-- The operands of a local transaction are the paths and the removals. -/
theorem ends_with_deb_iff {name : String} :
    Text.endsWith (name ++ "-") ".deb-" = Text.endsWith name ".deb" := by
  rw [Bool.eq_iff_iff, Text.endsWith, Text.endsWith, List.isSuffixOf_iff_suffix,
    List.isSuffixOf_iff_suffix, String.toList_append]
  show ".deb".toList ++ ['-'] <:+ name.toList ++ ['-'] ↔ _
  rw [List.suffix_concat_iff]
  constructor
  · rintro (hempty | ⟨front, hfront, hsuffix⟩)
    · cases hempty
    · rwa [(List.append_left_inj _).mp hfront]
  · intro hsuffix
    exact .inr ⟨_, rfl, hsuffix⟩

section Apt

variable {result : CommandResult} {packages : List String} {native : String} {pins : List String}
  {lines : List SimulationLine}

/-- The operand of a removal ends with a dash, and so not as a package file does. -/
theorem removal_operand_suffixes (name : String) :
    Text.endsWith (name ++ "-") "-" = true ∧ Text.endsWith (name ++ "-") ".deb" = false := by
  refine ⟨by rw [ends_with_dash_iff]; simp, ?_⟩
  rw [Bool.eq_false_iff]
  intro hsuffix
  rw [Text.endsWith, List.isSuffixOf_iff_suffix, String.toList_append] at hsuffix
  obtain ⟨front, hfront⟩ := hsuffix
  have hlast := congrArg List.getLast? hfront
  simp at hlast

/-- The path of a retained package file of APT ends as one does, and not with a dash. -/
theorem retained_deb_suffixes
    (h : StagedPlan snapshot .aptGet path bundle audit access actions bound) {text : String}
    (htext : text ∈ forwardPayloadPaths path bundle) :
    Text.endsWith text ".deb" = true ∧ Text.endsWith text "-" = false := by
  obtain ⟨entry, hentry, rfl⟩ := List.mem_map.mp htext
  obtain ⟨paths, hvalidated⟩ := h.validated
  have hpayloads := (validate_forward_payloads_ok hvalidated).1
  have hmem : entry ∈ bundle.packages := (List.mem_filter.mp hentry).1
  refine ⟨?_, payload_path_no_final_dash hpayloads hmem⟩
  obtain ⟨-, hfilename⟩ := valid_entry_filename (hpayloads.each entry hmem)
  rw [Text.endsWith, List.isSuffixOf_iff_suffix, payloadPath, Posix.pathText]
  · refine ⟨(path.parent.flatMap fun name => '/' :: name.toList) ++
      '/' :: bundle.directory.toList ++ '/' :: entry.sha256.toList, ?_⟩
    simp [hfilename, expectedFormat]
  · simp

/-- What the operands of a local transaction are read as. -/
theorem apt_local_operands {paths removals : List String}
    (hpaths : ∀ text ∈ paths, Text.endsWith text ".deb" = true ∧ Text.endsWith text "-" = false) :
    (paths ++ removals.map (· ++ "-")).filter (Text.endsWith · ".deb") = paths ∧
      ((paths ++ removals.map (· ++ "-")).filter fun operand =>
        Text.endsWith operand "-" && !Text.endsWith operand ".deb-").map (fun operand =>
          String.ofList operand.toList.dropLast) =
        removals.filter fun name => !Text.endsWith name ".deb" := by
  rw [List.filter_append, List.filter_append]
  constructor
  · have hkept : paths.filter (Text.endsWith · ".deb") = paths :=
      List.filter_eq_self.mpr fun text htext => (hpaths text htext).1
    have hdropped : (removals.map (· ++ "-")).filter (Text.endsWith · ".deb") = [] := by
      refine List.filter_eq_nil_iff.mpr fun text htext => ?_
      obtain ⟨name, -, rfl⟩ := List.mem_map.mp htext
      rw [(removal_operand_suffixes name).2]
      decide
    rw [hkept, hdropped, List.append_nil]
  · have hdropped : (paths.filter fun operand =>
        Text.endsWith operand "-" && !Text.endsWith operand ".deb-") = [] := by
      refine List.filter_eq_nil_iff.mpr fun text htext => ?_
      rw [(hpaths text htext).2, Bool.false_and]
      decide
    rw [hdropped, List.nil_append, List.filter_map, List.map_map]
    have hread : ((fun operand => String.ofList operand.toList.dropLast) ∘ (· ++ "-")) =
        (id : String → String) := by
      funext name
      simp
    rw [hread, List.map_id]
    refine List.filter_congr fun name _ => ?_
    rw [Function.comp_apply, (removal_operand_suffixes name).1, ends_with_deb_iff, Bool.true_and]

/-- Two states of APT identities are equal only when the identities are. -/
theorem apt_state_injective {identity other : AptIdentity}
    (h : aptState identity = aptState other) : identity = other := by
  obtain ⟨name, architecture, version⟩ := identity
  obtain ⟨name', architecture', version'⟩ := other
  simpa [aptState] using h

/-- The retained installs are the simulated ones. -/
theorem retained_apt_installs
    (hcomplete : ∀ entry ∈ forwardEntries bundle, entry.architecture ≠ "")
    (hretained : forwardStates bundle = (aptOutcome result audit native).installs)
    (identity : AptIdentity) :
    identity ∈ (transcriptInstalls result).map AptInstall.identity ↔
      identity ∈ ((forwardEntries bundle).map (forwardPackage .aptGet)).map
        (forwardAptIdentity · native) := by
  have hstate : ∀ entry ∈ forwardEntries bundle,
      aptState (forwardAptIdentity (forwardPackage .aptGet entry) native) =
        entryIdentity entry := by
    intro entry hentry
    have hmem : entryIdentity entry ∈ (aptOutcome result audit native).installs :=
      hretained ▸ ⟨entry, hentry, rfl⟩
    obtain ⟨install, -, heq⟩ := hmem
    have hepoch : entry.epoch = none :=
      (congrArg (fun state : PackageState => state.2.2.1) heq).symm
    simp [aptState, forwardAptIdentity, architectureOr, forwardPackage, truthy, formatOption,
      hcomplete entry hentry, entryIdentity, hepoch]
  rw [List.map_map, List.mem_map, List.mem_map]
  constructor
  · rintro ⟨install, hinstall, rfl⟩
    have hmem : aptState install.identity ∈ forwardStates bundle :=
      hretained ▸ ⟨install, hinstall, rfl⟩
    obtain ⟨entry, hentry, heq⟩ := hmem
    exact ⟨entry, hentry, apt_state_injective ((hstate entry hentry).trans heq)⟩
  · rintro ⟨entry, hentry, rfl⟩
    have hmem : entryIdentity entry ∈ (aptOutcome result audit native).installs :=
      hretained ▸ ⟨entry, hentry, rfl⟩
    obtain ⟨install, hinstall, heq⟩ := hmem
    exact ⟨install, hinstall, apt_state_injective (heq.trans (hstate entry hentry).symm)⟩

/-- Without a parsed removal, the local transaction does not deviate exactly when no removal is
planned. -/
theorem local_apt_deviation_ok
    (hcomplete : ∀ entry ∈ forwardEntries bundle, entry.architecture ≠ "")
    (hretained : forwardStates bundle = (aptOutcome result audit native).installs)
    (haccepted : AcceptedAptForward (transcriptInstalls result) (transcriptRemovals "Remv" result)
      packages audit native)
    {installs : List AptInstall}
    (hinstalls : ∀ install, install ∈ installs ↔ install ∈ transcriptInstalls result)
    {removeSpecs : List String} :
    localAptDeviation installs [] ((forwardEntries bundle).map (forwardPackage .aptGet)) removeSpecs
        audit native = .ok () ↔ removeSpecs = [] := by
  have hsame : sameMembers (installs.map AptInstall.identity)
      (((forwardEntries bundle).map (forwardPackage .aptGet)).map (forwardAptIdentity · native)) =
        true := by
    rw [same_members_iff]
    intro identity
    rw [← retained_apt_installs hcomplete hretained, List.mem_map, List.mem_map]
    simp only [hinstalls]
  have hreplaces : installs.all (replacesCurrent (currentAptIdentities audit native)) = true := by
    refine List.all_eq_true.mpr fun install hinstall => ?_
    have hbound := haccepted.bound install ((hinstalls install).mp hinstall)
    rw [replacesCurrent]
    cases hcurrent : currentAtSlot (currentAptIdentities audit native) install.slot with
    | none => simp [hbound, hcurrent]
    | some identity => simp [hbound, hcurrent]
  simp only [localAptDeviation, Result.bind_eq_ok, exists_const, Result.refuse_eq_ok, hsame,
    hreplaces, Bool.true_eq_false, not_false_eq_true, true_and, List.mapM_nil]
  constructor
  · rintro ⟨expected, hexpected, hdeviation⟩
    have hnone : expected = [] := by
      have hmembers := Result.refuse_eq_ok.mp hdeviation
      rw [Bool.not_eq_false, same_members_iff] at hmembers
      exact List.eq_nil_iff_forall_not_mem.mpr fun identity hidentity =>
        List.not_mem_nil ((hmembers identity).mpr hidentity)
    have hlength := (Result.mapM_eq_ok.mp hexpected).length_eq
    rw [hnone] at hlength
    exact List.length_eq_zero_iff.mp hlength
  · rintro rfl
    exact ⟨[], rfl, rfl⟩

/-- The local check of APT accepts a staged transaction exactly when no removal is planned and the
simulation lists no broken packages behind an install. -/
theorem apt_local_iff (h : StagedPlan snapshot .aptGet path bundle audit access actions bound)
    (hcommand : stagedCommand path bundle .aptGet audit actions = .ok command)
    (hpins : lockRemoveSpecs actions = .ok pins)
    (hretained : forwardStates bundle = (aptOutcome result audit native).installs)
    (haccepted : AcceptedAptForward (transcriptInstalls result) (transcriptRemovals "Remv" result)
      packages audit native)
    (hnative : nativeArchitecture? (run ["dpkg", "--print-architecture"]) = some native)
    (hanswer : ∀ operands,
      AptAnswer result audit native lines (run ("apt-get" :: "--simulate" :: operands))) :
    (∃ results, localForward .aptGet command path bundle audit parseXml run = .ok results) ↔
      pins = [] ∧ ∀ line ∈ lines, line.listsBroken = false := by
  have hcomplete : ∀ entry ∈ forwardEntries bundle, entry.architecture ≠ "" :=
    fun entry hentry => (h.entry_complete hentry).1
  have hmem : ∀ pin, pin ∈ sorted pins.dedup ↔ pin ∈ pins := fun pin => by
    rw [mem_sorted, List.mem_dedup]
  obtain ⟨hpaths, hread⟩ := @apt_local_operands (forwardPayloadPaths path bundle)
    (sorted pins.dedup) fun text => retained_deb_suffixes h
  have hbound : command = aptRestorePrefix ++
      (forwardPayloadPaths path bundle ++ (sorted pins.dedup).map (· ++ "-")) := by
    rw [stagedCommand, if_pos rfl, hpins, Result.ok_bind] at hcommand
    simp only [forwardPackageCommand, Result.check_bind_eq_ok] at hcommand
    exact (Result.pure_eq_ok.mp hcommand.2).symm
  have hstart : aptRestorePrefix.isPrefixOf command = true := by
    rw [hbound, List.isPrefixOf_iff_prefix]
    exact List.prefix_append _ _
  have hoperands : command.drop 8 =
      forwardPayloadPaths path bundle ++ (sorted pins.dedup).map (· ++ "-") := by
    rw [hbound]
    rfl
  have hne : forwardPayloadPaths path bundle ++ (sorted pins.dedup).map (· ++ "-") ≠ [] := by
    intro hnone
    exact h.bound_command.1 (List.map_eq_nil_iff.mp (List.append_eq_nil_iff.mp hnone).1)
  have hdistinct : ((sorted pins.dedup).filter fun name => !Text.endsWith name ".deb").Nodup :=
    (nodup_sorted.mpr (List.nodup_dedup _)).filter _
  have hlength : (forwardPayloadPaths path bundle).length +
        ((sorted pins.dedup).filter fun name => !Text.endsWith name ".deb").length =
      (forwardPayloadPaths path bundle ++ (sorted pins.dedup).map (· ++ "-")).length ↔
      ∀ pin ∈ pins, Text.endsWith pin ".deb" = false := by
    rw [List.length_append, List.length_map, Nat.add_left_cancel_iff,
      List.length_filter_eq_length_iff]
    simp only [hmem, Bool.not_eq_true']
  -- The check of the simulation reads the installs and no removal, or nothing at all.
  have hdetail : ∀ operands (removeSpecs : List String),
      localAptTransactionError (run ("apt-get" :: "--simulate" :: operands))
          ((forwardEntries bundle).map (forwardPackage .aptGet)) removeSpecs audit native = none ↔
        removeSpecs = [] ∧ ∀ line ∈ lines, line.listsBroken = false := by
    intro operands removeSpecs
    have hsimulated := hanswer operands
    rw [localAptTransactionError, if_neg (not_not.mpr hsimulated.succeeded)]
    by_cases hbroken : ∀ line ∈ lines, line.listsBroken = false
    · rw [parse_printed_simulation hsimulated.wellFormed hbroken hsimulated.slots
        hsimulated.complete hsimulated.printed, and_iff_left hbroken,
        ← local_apt_deviation_ok hcomplete hretained haccepted hsimulated.installs]
      dsimp only
      split
      · next error herror => simp [herror]
      · next hok => simp [hok]
    · rw [parse_broken_simulation hsimulated.wellFormed (by simpa using hbroken)
        hsimulated.complete hsimulated.printed]
      exact iff_of_false (Option.some_ne_none _) fun hclear => hbroken hclear.2
  have hnopins : sorted pins.dedup = [] ↔ pins = [] := by
    simp only [List.eq_nil_iff_forall_not_mem, hmem]
  simp only [localForward, preflightLocalAptForward, hstart, if_true, hoperands, hpaths, hread,
    Result.check_bind_eq_ok, Result.refuse_eq_ok, hnative, hne, hdistinct, not_or, not_not,
    not_true_eq_false, not_false_eq_true, true_and, and_true, ne_eq, hlength]
  constructor
  · rintro ⟨results, hsuffix, hlocal⟩
    have hkept : ((sorted pins.dedup).filter fun name => !Text.endsWith name ".deb") =
        sorted pins.dedup :=
      List.filter_eq_self.mpr fun pin hpin => by
        rw [hsuffix pin ((hmem pin).mp hpin), Bool.not_false]
    rw [hkept] at hlocal
    split at hlocal
    · exact absurd hlocal (by simp)
    · next hnone =>
        obtain ⟨hspecs, hbroken⟩ := (hdetail _ _).mp hnone
        exact ⟨hnopins.mp hspecs, hbroken⟩
  · rintro ⟨rfl, hbroken⟩
    have hspecs : (sorted ([] : List String).dedup).filter
        (fun name => !Text.endsWith name ".deb") = [] := by
      rw [hnopins.mpr rfl, List.filter_nil]
    rw [hspecs, (hdetail _ _).mpr ⟨rfl, hbroken⟩]
    exact ⟨_, by simp, rfl⟩

end Apt

end NvidiaConverge
