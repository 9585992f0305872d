import NvidiaConverge.Preflight.StagedApt
import NvidiaConverge.Preflight.StagedDnf
import NvidiaConverge.Preflight.StagedZypper

/-!
# The two forward checks

A transaction that the check against the repositories accepted, retained as it is and bound to
local files, is simulated again. `staged_forward_agrees_iff` says for each backend which of these
transactions the second check accepts when the solver answers the same.
-/

namespace NvidiaConverge

open Posix (AbsolutePath)

/-- The retained payloads are what an accepted forward transaction installs, and the solver answers
the same for the local files. Under APT the staged check accepts exactly the transactions without a
planned removal whose simulation lists no broken packages behind an install, and which retain the
pin of a policy action; the removals that it expects are then the transaction's exactly when there
are none. Under DNF it accepts exactly those that remove every other audited version in a slot which
they fill, and nothing else; under Zypper exactly those whose editions spell no zero epoch. -/
theorem staged_forward_agrees_iff (desired : DesiredState) (audit : HostAudit)
    (result : CommandResult) (snapshot : RollbackSnapshot) (path : AbsolutePath)
    (bundle : PackagePayloadBundle) (access : PayloadAccess) (actions bound : List PlanAction)
    (parseXml : String → Option XmlElement) (run : List String → CommandResult) :
    (∀ native pins lines,
      aptForwardTransactionError result native (packageInstallTargets desired audit) audit = none →
      forwardStates bundle = (aptOutcome result audit native).installs →
      StagedPlan snapshot .aptGet path bundle audit access actions bound →
      lockRemoveSpecs actions = .ok pins →
      nativeArchitecture? (run ["dpkg", "--print-architecture"]) = some native →
      (∀ operands,
        AptAnswer result audit native lines (run ("apt-get" :: "--simulate" :: operands))) →
      let accepted := ∃ results, preflightStagedForwardTransaction desired snapshot audit bound
        access parseXml run = .ok results
      let readable := (hasAction "lock.apt" actions = true →
          aptPinningPackage desired ∈ forwardNames bundle) ∧
        pins = [] ∧ ∀ line ∈ lines, line.listsBroken = false
      (accepted ↔ readable) ∧
        (accepted ∧ (aptOutcome result audit native).removals =
            expectedRemovals audit native pins ↔
          readable ∧ (aptOutcome result audit native).removals = ∅)) ∧
    (∀ installs removals, parseDnfForwardTransaction result = some (installs, removals) →
      dnfForwardTransactionError result (packageInstallTargets desired audit) audit = none →
      forwardStates bundle = (dnfOutcome installs removals).installs →
      StagedPlan snapshot .dnf path bundle audit access actions bound →
      Inventory .dnf audit.packages → (∀ command, DnfAnswer installs removals (run command)) →
      ((∃ results, preflightStagedForwardTransaction desired snapshot audit bound access parseXml
          run = .ok results) ↔
        (dnfOutcome installs removals).removals =
          otherVersions (dnfOutcome installs removals).installs audit.states)) ∧
    ∀ summary, parseZypperTransaction parseXml result = some summary →
      zypperForwardTransactionError parseXml result (packageInstallTargets desired audit) audit =
        none →
      forwardStates bundle = (zypperOutcome summary).installs →
      StagedPlan snapshot .zypper path bundle audit access actions bound →
      (∀ entry ∈ summary, PlainRelease entry.2.1) →
      (∀ command, (run command).returncode = some 0 ∧
        parseZypperTransaction parseXml (run command) = some summary) →
      ((∃ results, preflightStagedForwardTransaction desired snapshot audit bound access parseXml
          run = .ok results) ↔
        ∀ entry ∈ summary, entry.1 ≠ .remove → spellsZeroEpoch entry.2.2.1 = false) := by
  -- The bound plan and the forward targets are in order under every backend, so that acceptance
  -- comes down to the check of the local solver's answer.
  refine ⟨?_, ?_, ?_⟩
  · intro native pins lines haccepted hretained hplan hpins hnative hanswer accepted readable
    have hforward := apt_forward_accepted haccepted
    obtain ⟨-, command, hcommand, -, -⟩ := hplan.bound_command
    have htargets : ∀ name ∈ forwardTargetNames .aptGet (packageInstallTargets desired audit) audit,
        name ∈ forwardNames bundle := by
      intro name hname
      obtain ⟨install, hinstall, rfl⟩ := List.mem_map.mp (hforward.targets name hname)
      rw [mem_retained_names, hretained]
      exact ⟨aptState install.identity, ⟨install, hinstall, rfl⟩, rfl⟩
    have haccepts : accepted ↔ readable :=
      (hplan.staged_ok_iff hcommand htargets).trans
        (and_congr_right fun _ => apt_local_iff hplan hcommand hpins hretained hforward hnative
          hanswer)
    refine ⟨haccepts, ?_⟩
    rw [haccepts]
    refine and_congr_right fun hreadable => ?_
    rw [hreadable.2.1, expected_removals_nil]
  · intro installs removals hparsed haccepted hretained hplan haudit hanswer
    have hforward := (dnf_forward_accepted_iff hparsed).mp haccepted
    obtain ⟨-, command, hcommand, -, -⟩ := hplan.bound_command
    have htargets : ∀ name ∈ forwardTargetNames .dnf (packageInstallTargets desired audit) audit,
        name ∈ forwardNames bundle := by
      intro name hname
      obtain ⟨identity, hinstall, rfl⟩ := List.mem_map.mp (hforward.targets name hname)
      rw [mem_retained_names, hretained]
      exact ⟨rpmState identity, ⟨identity, hinstall, rfl⟩, rfl⟩
    rw [hplan.rpm_ok_iff (by decide) hcommand htargets,
      dnf_local_iff hplan hcommand hretained haudit hforward hanswer]
  · intro summary hparsed haccepted hretained hplan hnames hanswer
    have hforward := (zypper_forward_accepted_iff hparsed).mp haccepted
    obtain ⟨-, command, hcommand, -, -⟩ := hplan.bound_command
    have htargets : ∀ name ∈ forwardTargetNames .zypper (packageInstallTargets desired audit) audit,
        name ∈ forwardNames bundle := by
      intro name hname
      obtain ⟨entry, hentry, hne, rfl⟩ := hforward.targets name hname
      rw [mem_retained_names, hretained]
      exact ⟨zypperState entry.2, ⟨entry, hentry, hne, rfl⟩, rfl⟩
    rw [hplan.rpm_ok_iff (by decide) hcommand htargets,
      zypper_local_iff hplan hcommand hretained hnames hforward hanswer]

/-! ### Kernel headers beside older ones -/

/-- The version of the kernel headers that fits the running kernel. -/
def freshHeaders : List RpmIdentity :=
  [("kernel-devel", "x86_64", none, "4.18.0-553.el8_10"),
    ("kernel-headers", "x86_64", none, "4.18.0-553.el8_10")]

/-- An older build of the kernel headers. -/
def olderHeaders : RpmIdentity :=
  ("kernel-devel", "x86_64", none, "4.18.0-513.el8_9")

/-- The package of the older build, as an audit records it. -/
def olderPackage : PackageInfo where
  name := "kernel-devel"
  version := some "4.18.0-513.el8_9"
  manager := some "rpm"
  installed := true
  architecture := some "x86_64"

/-- A host that still has the older build of the kernel headers. -/
def olderHeadersHost : HostAudit :=
  { headerlessHost "4.18.0-553.el8_10.x86_64" with
    osId := some "rhel"
    osVersion := some "8.10"
    packageManager := some .dnf
    packages := [olderPackage] }

/-- A retained RPM of an identity, with its role. -/
def retainedRpm (identity : RpmIdentity) (role : String) (digit : Char) : PackagePayload where
  name := identity.1
  architecture := identity.2.1
  epoch := identity.2.2.1
  version := identity.2.2.2
  format := "rpm"
  filename := String.ofList (List.replicate 64 digit) ++ ".rpm"
  sha256 := String.ofList (List.replicate 64 digit)
  sizeBytes := 1
  verification := "rpm-signature"
  roles := [role]
  signerIds := ["00000000"]

/-- The older version and both fresh packages are retained. -/
def headersBundle : PackagePayloadBundle where
  directory := "rollback.json.payloads"
  packages := [retainedRpm olderHeaders "baseline" 'a',
    retainedRpm ("kernel-devel", "x86_64", none, "4.18.0-553.el8_10") "forward" 'b',
    retainedRpm ("kernel-headers", "x86_64", none, "4.18.0-553.el8_10") "forward" 'c']
  totalSizeBytes := 3

/-- The files of the bundle, as they are found on disk. -/
def headersAccess : PayloadAccess where
  directory := .ok (headersBundle.packages.map fun entry =>
    { name := entry.filename, sha256 := entry.sha256, sizeBytes := entry.sizeBytes })

/-- The snapshot that retains the fresh headers and records the older ones. -/
def headersSnapshot : RollbackSnapshot where
  path := some develPath.text
  packages := [olderPackage]
  kernel := "4.18.0-553.el8_10.x86_64"
  moduleVersion := none
  commands := []
  packageManager := some .dnf
  packagePayloads := some headersBundle

/-- The plan that installs the headers of the running kernel. -/
def headersPlan : List PlanAction :=
  packageActions anyBootDesired olderHeadersHost []

/-- A record of the solver for an RPM. -/
def rpmRecord (identity : RpmIdentity) : Json.Value :=
  .object [("architecture", .string identity.2.1),
    ("epoch", match identity.2.2.1 with | none => .null | some epoch => .string epoch),
    ("name", .string identity.1), ("version", .string identity.2.2.2)]

/-- What the repository-level solver prints for the fresh headers. -/
def solvedHeaders (removals : List RpmIdentity) : CommandResult where
  command := ["python3"]
  returncode := some 0
  stdout := Json.dumps none (.object
    [("install", .array (freshHeaders.map rpmRecord)), ("remove", .array (removals.map rpmRecord))])
    ++ String.ofList [Char.ofNat 10]

/-- What the local solver prints for the fresh headers. -/
def localHeaders (removals : List RpmIdentity) : CommandResult where
  command := ["python3"]
  returncode := some 0
  stdout := printedTransaction (freshHeaders.map formatRpmIdentity)
    (removals.map formatRpmIdentity) ++ String.ofList [Char.ofNat 10]

/-- An output without blanks was not cut off by the runner. -/
theorem complete_of_no_blank {result : CommandResult} (hstdout : ' ' ∉ result.stdout.toList)
    (hstderr : ' ' ∉ result.stderr.toList) : outputTruncated result = false := by
  have hpattern : ' ' ∈ "[output truncated:".toList := by decide
  rw [outputTruncated, Bool.or_eq_false_iff]
  exact ⟨Bool.eq_false_iff.mpr fun h => hstdout (Text.subset_of_infix h hpattern),
    Bool.eq_false_iff.mpr fun h => hstderr (Text.subset_of_infix h hpattern)⟩

/-- What both solvers print is read as the fresh headers and the same removals. -/
theorem headers_answers {removals : List RpmIdentity}
    (hremovals : removals = [] ∨ removals = [olderHeaders]) :
    parseDnfForwardTransaction (solvedHeaders removals) = some (freshHeaders, removals) ∧
      DnfAnswer freshHeaders removals (localHeaders removals) := by
  have hplain : ∀ identity : RpmIdentity, Json.Plain (rpmRecord identity) := by
    intro identity
    refine ⟨show (["architecture", "epoch", "name", "version"] : List String).Nodup by decide,
      trivial, ?_, trivial, trivial, trivial⟩
    cases identity.2.2.1 <;> exact trivial
  have hrecords : ∀ identities : List RpmIdentity,
      Json.Plain (.array (identities.map rpmRecord)) := by
    intro identities
    rw [Json.Plain, Json.plain_items_iff]
    intro item hitem
    obtain ⟨identity, -, rfl⟩ := List.mem_map.mp hitem
    exact hplain identity
  have hloads : Json.loads (solvedHeaders removals).stdout = some (.object
      [("install", .array (freshHeaders.map rpmRecord)),
        ("remove", .array (removals.map rpmRecord))]) :=
    Json.loads_dumps_newline ⟨show (["install", "remove"] : List String).Nodup by decide,
      hrecords _, hrecords _, trivial⟩
  have hcomplete : outputTruncated (solvedHeaders removals) = false ∧
      outputTruncated (localHeaders removals) = false := by
    constructor
    · refine complete_of_no_blank ?_ (by simp [solvedHeaders])
      rw [solvedHeaders, Json.dumps, ← String.ofList_append, String.toList_ofList]
      rcases hremovals with rfl | rfl <;> decide +kernel
    · refine complete_of_no_blank ?_ (by simp [localHeaders])
      rw [localHeaders, printedTransaction, Json.dumps, ← String.ofList_append,
        String.toList_ofList]
      rcases hremovals with rfl | rfl <;> decide +kernel
  refine ⟨?_, rfl, sorted (freshHeaders.map formatRpmIdentity),
    sorted (removals.map formatRpmIdentity), ?_, fun spec => mem_sorted, fun spec => mem_sorted⟩
  · have hinstalls : parseRpmIdentityRecords (.array (freshHeaders.map rpmRecord)) =
        some freshHeaders := by
      decide
    have hremoved : parseRpmIdentityRecords (.array (removals.map rpmRecord)) = some removals := by
      rcases hremovals with rfl | rfl <;> decide
    rw [parseDnfForwardTransaction, hcomplete.1, hloads]
    simp [List.lookup, hinstalls, hremoved]
  · refine parse_printed_transaction ?_ ?_ ?_ hcomplete.2 rfl
    · rcases hremovals with rfl | rfl <;> decide
    · decide
    · rcases hremovals with rfl | rfl <;> decide

/-- The fresh headers are retained in the bundle. -/
theorem headers_retained {removals : List RpmIdentity} :
    forwardStates headersBundle = (dnfOutcome freshHeaders removals).installs := by
  have hentries : (forwardEntries headersBundle).map entryIdentity = freshHeaders.map rpmState := by
    decide
  ext state
  have hmem : state ∈ (forwardEntries headersBundle).map entryIdentity ↔
      state ∈ freshHeaders.map rpmState := by
    rw [hentries]
  rw [List.mem_map, List.mem_map] at hmem
  exact hmem

/-- The plan is bound to the retained headers. -/
theorem headers_plan_bound : ∃ bound, StagedPlan headersSnapshot .dnf develPath headersBundle
    olderHeadersHost headersAccess headersPlan bound := by
  have hvalidated : (validatePackagePayloads develPath headersBundle headersSnapshot.packages .dnf
      (some ((forwardEntries headersBundle).map (forwardPackage .dnf))) headersAccess).toBool =
        true := by
    decide +kernel
  have hbound : (bindForwardPackagePayloads headersPlan headersSnapshot olderHeadersHost).toBool =
      true := by
    decide +kernel
  obtain ⟨bound, hbound⟩ := Result.exists_of_to_bool hbound
  exact ⟨bound,
    { located := rfl
      backend := rfl
      retained := rfl
      install := ⟨installPackages anyBootDesired olderHeadersHost, rfl⟩
      policy := fun _ => rfl
      atMostOne := by decide
      validated := Result.exists_of_to_bool hvalidated
      rewritten := hbound }⟩

/-- The packages of the host with the older headers are rows of an inventory. -/
theorem older_headers_inventory : Inventory .dnf olderHeadersHost.packages where
  rows := by
    intro package hpackage
    obtain rfl := List.mem_singleton.mp hpackage
    exact
      { installed := rfl
        backend := rfl
        interesting := show interestingPackage "kernel-devel" = true by decide
        fields :=
          { name := show '=' ∉ "kernel-devel".toList by decide
            architecture := ⟨"x86_64", rfl, by decide, by decide, by decide, by decide⟩
            version := ⟨"4.18.0", "513.el8_9", rfl, by decide, by decide, by decide⟩
            epoch := fun epoch hepoch => by cases hepoch } }
  distinct := by decide
  slots := fun hno => absurd hno (by decide)

/-- Both transactions are accepted by the check against the repositories. -/
theorem headers_accepted {removals : List RpmIdentity}
    (hremovals : removals = [] ∨ removals = [olderHeaders]) :
    dnfForwardTransactionError (solvedHeaders removals)
      (packageInstallTargets anyBootDesired olderHeadersHost) olderHeadersHost = none := by
  rw [dnfForwardTransactionError, (headers_answers hremovals).1]
  rcases hremovals with rfl | rfl <;> decide

/-- The older version is the only other one in a filled slot. -/
theorem older_headers_other : otherVersions (dnfOutcome freshHeaders []).installs
    olderHeadersHost.states = {rpmState olderHeaders} := by
  ext state
  constructor
  · rintro ⟨⟨⟨package, hpackage, -, rfl⟩, -⟩, -⟩
    rw [List.mem_singleton.mp hpackage]
    exact Set.mem_singleton _
  · rintro rfl
    refine ⟨⟨⟨olderPackage, List.mem_singleton_self _, rfl, rfl⟩, ?_⟩, ?_⟩
    · rintro ⟨identity, hidentity, heq⟩
      revert identity
      decide
    · exact ⟨rpmState ("kernel-devel", "x86_64", none, "4.18.0-553.el8_10"),
        ⟨_, List.mem_cons_self, rfl⟩, rfl⟩

/-! ### Kernel headers of an Ubuntu host -/

/-- The retained headers package of the Ubuntu host. -/
def ubuntuPayload : PackagePayload where
  name := "linux-headers-6.8.0-60-generic"
  architecture := "amd64"
  epoch := none
  version := "6.8.0-60.63"
  format := "deb"
  filename := String.ofList (List.replicate 64 'd') ++ ".deb"
  sha256 := String.ofList (List.replicate 64 'd')
  sizeBytes := 1
  verification := "apt-repository"
  roles := ["forward"]
  signerIds := []

/-- The bundle that retains the headers package. -/
def ubuntuBundle : PackagePayloadBundle where
  directory := "rollback.json.payloads"
  packages := [ubuntuPayload]
  totalSizeBytes := 1

/-- The file of the headers package, as it is found on disk. -/
def ubuntuAccess : PayloadAccess where
  directory := .ok (ubuntuBundle.packages.map fun entry =>
    { name := entry.filename, sha256 := entry.sha256, sizeBytes := entry.sizeBytes })

/-- The snapshot that retains the headers package. -/
def ubuntuSnapshot : RollbackSnapshot where
  path := some develPath.text
  packages := []
  kernel := "6.8.0-60-generic"
  moduleVersion := none
  commands := []
  packageManager := some .aptGet
  packagePayloads := some ubuntuBundle

/-- The plan that installs the headers of the running kernel of Ubuntu. -/
def ubuntuPlan : List PlanAction :=
  packageActions anyBootDesired ubuntuHost []

/-- The answers on the Ubuntu host: its architecture, and the installation of the headers. -/
def ubuntuAnswers (command : List String) : CommandResult :=
  if command = ["dpkg", "--print-architecture"] then
    { command, returncode := some 0, stdout := "amd64\n" }
  else simulatedInstallation [headersLine]

/-- The plan is bound to the retained package. -/
theorem ubuntu_plan_bound : ∃ bound, StagedPlan ubuntuSnapshot .aptGet develPath ubuntuBundle
    ubuntuHost ubuntuAccess ubuntuPlan bound := by
  have hvalidated : (validatePackagePayloads develPath ubuntuBundle ubuntuSnapshot.packages .aptGet
      (some ((forwardEntries ubuntuBundle).map (forwardPackage .aptGet))) ubuntuAccess).toBool =
        true := by
    decide +kernel
  have hbound : (bindForwardPackagePayloads ubuntuPlan ubuntuSnapshot ubuntuHost).toBool =
      true := by
    decide +kernel
  obtain ⟨bound, hbound⟩ := Result.exists_of_to_bool hbound
  exact ⟨bound,
    { located := rfl
      backend := rfl
      retained := rfl
      install := ⟨installPackages anyBootDesired ubuntuHost, rfl⟩
      policy := fun hne => absurd rfl hne
      atMostOne := by decide
      validated := Result.exists_of_to_bool hvalidated
      rewritten := hbound }⟩

/-- The solver answers the same for the retained package. -/
theorem ubuntu_answers : AptAnswer (simulatedInstallation [headersLine]) ubuntuHost "amd64"
    [headersLine] (simulatedInstallation [headersLine]) where
  succeeded := rfl
  complete := by decide
  printed := rfl
  wellFormed := (ubuntu_lines_well_formed (by simp)).1
  slots := List.nodup_singleton _
  installs := by
    intro install
    rw [← (parse_apt_transaction_eq (ubuntu_transcript_parsed (.inl rfl))).1]
    rfl
  removals := by
    intro state
    constructor
    · rintro ⟨identity, hidentity, -⟩
      cases hidentity
    · rintro ⟨removal, hremoval, -⟩
      rw [ubuntu_transcript_removals.1, ubuntu_transcript_removals.2] at hremoval
      cases hremoval

/-- The headers package is retained in the bundle. -/
theorem ubuntu_retained : forwardStates ubuntuBundle =
    (aptOutcome (simulatedInstallation [headersLine]) ubuntuHost "amd64").installs := by
  ext state
  show (∃ entry ∈ [ubuntuPayload], entryIdentity entry = state) ↔
    ∃ install ∈ transcriptInstalls (simulatedInstallation [headersLine]), _ = state
  rw [← (parse_apt_transaction_eq (ubuntu_transcript_parsed (.inl rfl))).1]
  simp only [List.mem_singleton, exists_eq_left]
  exact Iff.rfl

/-- A DNF solver that replaces the older version is accepted again, and so is an APT solver that
only installs. -/
theorem staged_forward_agrees_iff_replaced :
    (∃ bound results,
      StagedPlan headersSnapshot .dnf develPath headersBundle olderHeadersHost headersAccess
          headersPlan bound ∧
        preflightStagedForwardTransaction anyBootDesired headersSnapshot olderHeadersHost bound
          headersAccess (fun _ => none) (fun _ => localHeaders [olderHeaders]) = .ok results) ∧
    ∃ bound results,
      StagedPlan ubuntuSnapshot .aptGet develPath ubuntuBundle ubuntuHost ubuntuAccess ubuntuPlan
          bound ∧
        preflightStagedForwardTransaction anyBootDesired ubuntuSnapshot ubuntuHost bound
          ubuntuAccess (fun _ => none) ubuntuAnswers = .ok results ∧
        (aptOutcome (simulatedInstallation [headersLine]) ubuntuHost "amd64").removals =
          expectedRemovals ubuntuHost "amd64" [] := by
  constructor
  · obtain ⟨bound, hplan⟩ := headers_plan_bound
    obtain ⟨hparsed, hanswer⟩ := headers_answers (.inr rfl)
    obtain ⟨results, hresults⟩ := ((staged_forward_agrees_iff anyBootDesired olderHeadersHost
      (solvedHeaders [olderHeaders]) headersSnapshot develPath headersBundle headersAccess
      headersPlan bound (fun _ => none) (fun _ => localHeaders [olderHeaders])).2.1 freshHeaders
        [olderHeaders] hparsed (headers_accepted (.inr rfl)) headers_retained hplan
        older_headers_inventory (fun _ => hanswer)).mpr (by
          rw [show (dnfOutcome freshHeaders [olderHeaders]).installs =
            (dnfOutcome freshHeaders []).installs from rfl, older_headers_other]
          ext state
          simp [dnfOutcome, eq_comm])
    exact ⟨bound, results, hplan, hresults⟩
  · obtain ⟨bound, hplan⟩ := ubuntu_plan_bound
    have hremovals : (aptOutcome (simulatedInstallation [headersLine]) ubuntuHost
        "amd64").removals = ∅ := by
      refine Set.eq_empty_iff_forall_notMem.mpr fun state hstate => ?_
      obtain ⟨identity, hidentity, -⟩ := (ubuntu_answers.removals state).mpr hstate
      cases hidentity
    obtain ⟨⟨results, hresults⟩, hexpected⟩ := ((staged_forward_agrees_iff anyBootDesired
      ubuntuHost (simulatedInstallation [headersLine]) ubuntuSnapshot develPath ubuntuBundle
      ubuntuAccess ubuntuPlan bound (fun _ => none) ubuntuAnswers).1 "amd64" [] [headersLine]
        (ubuntu_transcript_accepted (.inl rfl)) ubuntu_retained hplan rfl (by decide)
        (fun _ => ubuntu_answers)).2.mpr
          ⟨⟨fun hlocked => absurd hlocked (by decide), rfl,
            (ubuntu_lines_well_formed (by simp)).2⟩, hremovals⟩
    exact ⟨bound, results, hplan, hresults, hexpected⟩

/-- A solver that installs the headers beside the older version is accepted first and refused
for the staged files. -/
theorem kept_headers_refused : ∃ bound,
    StagedPlan headersSnapshot .dnf develPath headersBundle olderHeadersHost headersAccess
        headersPlan bound ∧
      parseDnfForwardTransaction (solvedHeaders []) = some (freshHeaders, []) ∧
      dnfForwardTransactionError (solvedHeaders [])
        (packageInstallTargets anyBootDesired olderHeadersHost) olderHeadersHost = none ∧
      forwardStates headersBundle = (dnfOutcome freshHeaders []).installs ∧
      DnfAnswer freshHeaders [] (localHeaders []) ∧
      ∀ results, preflightStagedForwardTransaction anyBootDesired headersSnapshot olderHeadersHost
        bound headersAccess (fun _ => none) (fun _ => localHeaders []) ≠ .ok results := by
  obtain ⟨bound, hplan⟩ := headers_plan_bound
  obtain ⟨hparsed, hanswer⟩ := headers_answers (.inl rfl)
  have hforward := (dnf_forward_accepted_iff hparsed).mp (headers_accepted (.inl rfl))
  obtain ⟨-, command, hcommand, -, -⟩ := hplan.bound_command
  refine ⟨bound, hplan, hparsed, headers_accepted (.inl rfl), headers_retained, hanswer, ?_⟩
  intro results hresults
  have htargets : ∀ name ∈ forwardTargetNames .dnf
      (packageInstallTargets anyBootDesired olderHeadersHost) olderHeadersHost,
      name ∈ forwardNames headersBundle := by decide
  have hlocal := (hplan.rpm_ok_iff (by decide) hcommand htargets).mp ⟨results, hresults⟩
  have hremoved := (dnf_local_iff hplan hcommand headers_retained older_headers_inventory hforward
    (fun _ => hanswer)).mp hlocal
  rw [older_headers_other] at hremoved
  have hmem : rpmState olderHeaders ∈ (dnfOutcome freshHeaders []).removals :=
    hremoved ▸ Set.mem_singleton _
  obtain ⟨identity, hidentity, -⟩ := hmem
  cases hidentity

end NvidiaConverge
