import NvidiaConverge.Preflight.StagedPlan

/-!
# The staged transaction under Zypper

An edition that spells the epoch zero is not the edition that the retained package prints.
`zypper_local_iff` says which transactions the local check accepts.
-/

namespace NvidiaConverge

open Posix (AbsolutePath)

variable {desired : DesiredState} {audit : HostAudit} {manager : PackageManager}
  {snapshot : RollbackSnapshot} {path : AbsolutePath} {bundle : PackagePayloadBundle}
  {access : PayloadAccess} {actions bound : List PlanAction} {command : List String}
  {package : PackageInfo}
  {parseXml : String → Option XmlElement} {run : List String → CommandResult}

/-- Whether an edition spells the epoch that stands for none. -/
def spellsZeroEpoch (edition : String) : Bool :=
  match Text.splitFirst ':' edition.toList with
  | (['0'], some (_ :: _)) => true
  | _ => false

section Zypper

variable {packages : List String} {summary : List (ZypperAction × ZypperIdentity)}

/-- What a retained identity is in a summary again: the zero epoch is lost. -/
theorem zypper_of_retained (identity : ZypperIdentity) :
    (spellsZeroEpoch identity.2.1 = false ∧ zypperOf (zypperState identity) = identity) ∨
      (spellsZeroEpoch identity.2.1 = true ∧
        (zypperOf (zypperState identity)).2.1.toList.length < identity.2.1.toList.length) := by
  obtain ⟨name, edition, architecture⟩ := identity
  have hidentity : zypperOf (zypperState (name, edition, architecture)) =
      (name, (if truthy (splitRpmEdition edition).1 then
        formatOption (splitRpmEdition edition).1 ++ ":" else "") ++ (splitRpmEdition edition).2,
        architecture) := rfl
  rw [hidentity]
  show (spellsZeroEpoch edition = false ∧ _) ∨ (spellsZeroEpoch edition = true ∧ _)
  rw [spellsZeroEpoch, splitRpmEdition]
  split
  · next c version hsplit =>
      have hchars := Text.split_first_eq_some hsplit
      refine .inr ⟨rfl, ?_⟩
      rw [hsplit, hchars]
      simp [isAsciiDigits, truthy]
  · next hother =>
      refine .inl ⟨rfl, ?_⟩
      split
      · next epoch c version hsplit =>
          have hchars := Text.split_first_eq_some hsplit
          have hzero : epoch ≠ ['0'] := fun heq => hother c version (heq ▸ hsplit)
          by_cases hdigits : isAsciiDigits epoch = true
          · have hne : String.ofList epoch ≠ "" := by
              intro hempty
              rw [← String.toList_inj, String.toList_ofList] at hempty
              rw [hempty] at hdigits
              exact absurd hdigits (by decide)
            rw [if_pos hdigits, if_neg hzero]
            have hedition : String.ofList epoch ++ ":" ++
                String.ofList (c :: version) = edition := by
              rw [← String.toList_inj, hchars]
              simp
            simp only [truthy, hne, ne_eq, not_false_eq_true, decide_true, if_true, formatOption,
              hedition]
          · rw [if_neg hdigits]
            simp [truthy]
      · simp [truthy]

/-- The names of the retained packages are the changed ones. -/
theorem mem_forward_names (hretained : forwardStates bundle = (zypperOutcome summary).installs)
    {name : String} : name ∈ forwardNames bundle ↔
      ∃ entry ∈ summary, entry.1 ≠ .remove ∧ entry.2.1 = name := by
  rw [forwardNames, List.mem_map]
  constructor
  · rintro ⟨entry, hentry, rfl⟩
    have hstate : entryIdentity entry ∈ (zypperOutcome summary).installs :=
      hretained ▸ ⟨entry, hentry, rfl⟩
    obtain ⟨change, hchange, hne, heq⟩ := hstate
    exact ⟨change, hchange, hne, congrArg (fun state : PackageState => state.1) heq⟩
  · rintro ⟨change, hchange, hne, rfl⟩
    have hstate : zypperState change.2 ∈ forwardStates bundle :=
      hretained ▸ ⟨change, hchange, hne, rfl⟩
    obtain ⟨entry, hentry, heq⟩ := hstate
    exact ⟨entry, hentry, congrArg (fun state : PackageState => state.1) heq⟩

/-- A summary accepted for its targets is accepted for its own names. -/
theorem AcceptedZypperForward.of_names
    (h : AcceptedZypperForward summary packages audit)
    (hretained : forwardStates bundle = (zypperOutcome summary).installs)
    (hnames : ∀ entry ∈ summary, PlainRelease entry.2.1) :
    AcceptedZypperForward summary (forwardNames bundle) audit := by
  have htargets : ∀ name, name ∈ forwardTargetNames .zypper (forwardNames bundle) audit ↔
      name ∈ forwardNames bundle := by
    have hplain : ∀ spec ∈ forwardNames bundle, targetName spec = spec := by
      intro spec hspec
      obtain ⟨entry, hentry, -, rfl⟩ := (mem_forward_names hretained).mp hspec
      exact target_name_plain (hnames entry hentry)
    intro name
    rw [forwardTargetNames, List.mem_map]
    simp only [reduceCtorEq, or_self, false_and, if_false]
    constructor
    · rintro ⟨spec, hspec, rfl⟩
      rwa [hplain spec hspec]
    · intro hname
      exact ⟨name, hname, hplain name hname⟩
  have hchanged : ∀ entry ∈ summary, entry.2.1 ∈ forwardNames bundle := by
    intro entry hentry
    rw [mem_forward_names hretained]
    by_cases hremove : entry.1 = .remove
    · obtain ⟨change, hchange, hne, heq⟩ := h.inSlots entry hentry hremove
      obtain ⟨hname, -⟩ : change.2.1 = entry.2.1 ∧ change.2.2.2 = entry.2.2.2 := Prod.mk.inj heq
      exact ⟨change, hchange, hne, hname⟩
    · exact ⟨entry, hentry, hremove, rfl⟩
  refine
    { allowed := fun entry hentry => ?_
      bound := h.bound
      inSlots := h.inSlots
      changes := h.changes
      targets := fun name hname => (mem_forward_names hretained).mp ((htargets name).mp hname) }
  have hinteresting := observable_interesting (allowed_observable (h.allowed entry hentry))
  have htarget := (htargets entry.2.1).mpr (hchanged entry hentry)
  rw [forwardPackageAllowed, forwardPackageObservable, hinteresting]
  simp [htarget]

/-- The retained identities, as the local check compares them. -/
theorem zypper_forward_identities
    (h : StagedPlan snapshot .zypper path bundle audit access actions bound) :
    ((forwardEntries bundle).map (forwardPackage .zypper)).map zypperInventoryIdentity =
      ((forwardEntries bundle).map fun entry => zypperOf (entryIdentity entry)).map some := by
  rw [List.map_map, List.map_map]
  refine List.map_congr_left fun entry hentry => ?_
  obtain ⟨harchitecture, hversion⟩ := h.entry_complete hentry
  have hcomplete : ((forwardPackage .zypper entry).installed &&
      (forwardPackage .zypper entry).manager == some "rpm" &&
      truthy (forwardPackage .zypper entry).version &&
      truthy (forwardPackage .zypper entry).architecture) = true := by
    simp [forwardPackage, expectedManager, truthy, harchitecture, hversion]
  show zypperInventoryIdentity (forwardPackage .zypper entry) = some _
  rw [zypperInventoryIdentity, if_pos hcomplete]
  rfl

/-- The retained identities are the changed ones exactly when no zero epoch was lost. -/
theorem zypper_identities_iff
    (hretained : forwardStates bundle = (zypperOutcome summary).installs) :
    (∀ identity, identity ∈ (summary.filter (·.1 ≠ .remove)).map Prod.snd ↔
        identity ∈ (forwardEntries bundle).map fun entry => zypperOf (entryIdentity entry)) ↔
      ∀ entry ∈ summary, entry.1 ≠ .remove → spellsZeroEpoch entry.2.2.1 = false := by
  have hmem : ∀ identity, identity ∈ ((forwardEntries bundle).map fun entry =>
      zypperOf (entryIdentity entry)) ↔
      ∃ other ∈ (summary.filter (·.1 ≠ .remove)).map Prod.snd,
        zypperOf (zypperState other) = identity := by
    intro identity
    simp only [List.mem_map, List.mem_filter, decide_eq_true_eq]
    constructor
    · rintro ⟨entry, hentry, rfl⟩
      have hstate : entryIdentity entry ∈ (zypperOutcome summary).installs :=
        hretained ▸ ⟨entry, hentry, rfl⟩
      obtain ⟨change, hchange, hne, heq⟩ := hstate
      exact ⟨change.2, ⟨change, ⟨hchange, hne⟩, rfl⟩, congrArg zypperOf heq⟩
    · rintro ⟨_, ⟨change, ⟨hchange, hne⟩, rfl⟩, rfl⟩
      have hstate : zypperState change.2 ∈ forwardStates bundle :=
        hretained ▸ ⟨change, hchange, hne, rfl⟩
      obtain ⟨entry, hentry, heq⟩ := hstate
      exact ⟨entry, hentry, congrArg zypperOf heq⟩
  simp only [hmem]
  constructor
  · intro hsame entry hentry hne
    have hchanged : entry.2 ∈ (summary.filter (·.1 ≠ .remove)).map Prod.snd :=
      List.mem_map.mpr ⟨entry, List.mem_filter.mpr ⟨hentry, by simpa using hne⟩, rfl⟩
    -- Retaining an identity drops a zero epoch and so only shortens its edition. A finite set that
    -- is its own image under such a map is fixed by it.
    have hshrinks : ∀ identity : ZypperIdentity, zypperOf (zypperState identity) = identity ∨
        (zypperOf (zypperState identity)).2.1.toList.length < identity.2.1.toList.length := by
      intro identity
      rcases zypper_of_retained identity with ⟨-, hfixed⟩ | ⟨-, hsmaller⟩
      · exact .inl hfixed
      · exact .inr hsmaller
    have hfixed : zypperOf (zypperState entry.2) = entry.2 :=
      @SlotDelta.fixed_of_image_eq _ (fun identity => zypperOf (zypperState identity))
        (fun identity => identity.2.1.toList.length) _ hshrinks
        (fun identity => (hsame identity).mp) entry.2 hchanged
    rcases zypper_of_retained entry.2 with ⟨hspelled, -⟩ | ⟨-, hsmaller⟩
    · exact hspelled
    · rw [hfixed] at hsmaller
      exact absurd hsmaller (lt_irrefl _)
  · intro hspelled identity
    have hfixed : ∀ other ∈ (summary.filter (·.1 ≠ .remove)).map Prod.snd,
        zypperOf (zypperState other) = other := by
      intro other hother
      obtain ⟨entry, hentry, rfl⟩ := List.mem_map.mp hother
      rw [List.mem_filter] at hentry
      rcases zypper_of_retained entry.2 with ⟨-, hfixed⟩ | ⟨hzero, -⟩
      · exact hfixed
      · rw [hspelled entry hentry.1 (by simpa using hentry.2)] at hzero
        cases hzero
    constructor
    · exact fun hidentity => ⟨identity, hidentity, hfixed identity hidentity⟩
    · rintro ⟨other, hother, rfl⟩
      rwa [hfixed other hother]

/-- The local check of Zypper accepts the summaries whose editions do not spell a zero epoch. -/
theorem zypper_local_iff (h : StagedPlan snapshot .zypper path bundle audit access actions bound)
    (hcommand : stagedCommand path bundle .zypper audit actions = .ok command)
    (hretained : forwardStates bundle = (zypperOutcome summary).installs)
    (hnames : ∀ entry ∈ summary, PlainRelease entry.2.1)
    (haccepted : AcceptedZypperForward summary packages audit)
    (hanswer : ∀ command, (run command).returncode = some 0 ∧
      parseZypperTransaction parseXml (run command) = some summary) :
    (∃ results, localForward .zypper command path bundle audit parseXml run = .ok results) ↔
      ∀ entry ∈ summary, entry.1 ≠ .remove → spellsZeroEpoch entry.2.2.1 = false := by
  have hbound : forwardPackageCommand path bundle .zypper [] = .ok command := by
    rwa [stagedCommand, if_neg (by decide), boundRpmCommand, if_neg (by decide)] at hcommand
  have hmarker : "--" ∉ ["zypper", "--non-interactive", "--disable-repositories", "--no-refresh",
      "install", "--no-recommends"] := by decide
  have hoperands : cutAt "--" command = some (["zypper", "--non-interactive",
      "--disable-repositories", "--no-refresh", "install", "--no-recommends"],
      forwardPayloadPaths path bundle) := by
    have hstart := hbound
    simp only [forwardPackageCommand, Result.check_bind_eq_ok] at hstart
    rw [← Result.pure_eq_ok.mp hstart.2]
    exact cut_at_append hmarker
  have hnamed : ((forwardEntries bundle).map (forwardPackage .zypper)).map (·.name) =
      forwardNames bundle := by
    rw [List.map_map]
    rfl
  have hdetail : ∀ command, localZypperError parseXml (run command)
      ((forwardEntries bundle).map (forwardPackage .zypper)) audit = none ↔
      ∀ entry ∈ summary, entry.1 ≠ .remove → spellsZeroEpoch entry.2.2.1 = false := by
    intro command
    have hparsed := (hanswer command).2
    have hknown := (zypper_forward_accepted_iff hparsed).mpr
      (haccepted.of_names hretained hnames)
    rw [← zypper_identities_iff hretained, localZypperError, hnamed, hknown, hparsed,
      zypper_forward_identities h, Option.getD_some]
    simp only [ite_eq_right_iff, reduceCtorEq, imp_false, not_or, Bool.not_eq_false]
    rw [same_members_iff, Option.forall]
    have hnone : ∀ identities : List ZypperIdentity, none ∉ identities.map some := by
      intro identities hmem
      obtain ⟨_, -, heq⟩ := List.mem_map.mp hmem
      cases heq
    have hsome : ∀ (identities : List ZypperIdentity) identity,
        some identity ∈ identities.map some ↔ identity ∈ identities := fun identities identity =>
      List.mem_map_of_injective (Option.some_injective _)
    simp only [hnone, hsome, not_false_eq_true, true_and, iff_self]
  simp only [localForward, preflightLocalZypperForward, hbound, hoperands, ne_eq,
    not_true_eq_false, or_self, if_false, (hanswer _).1]
  constructor
  · rintro ⟨results, hlocal⟩
    split at hlocal
    · exact absurd hlocal (by simp)
    · next hnone => exact (hdetail _).mp hnone
  · intro hspelled
    rw [(hdetail _).mpr hspelled]
    exact ⟨_, rfl⟩

end Zypper

end NvidiaConverge
