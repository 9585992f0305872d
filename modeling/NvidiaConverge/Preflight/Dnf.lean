import NvidiaConverge.Library.JsonRoundTrip
import NvidiaConverge.Rollback.ExactDelta

/-!
# The DNF rollback preflight

`_preflight_dnf_transaction` recomputes the transaction that `rollback_package_commands`
derived and compares the solver's answer with it. Its replacements are all packages in restored
slots; `expected_command_eq_iff` says when they are the ones that the derived command expects.
-/

namespace NvidiaConverge

open Posix (AbsolutePath)
open Result (refuse)
open SlotDelta (missing added displaced WholeSlots)

/-! ## Preflight errors -/

/-- `PackagePreflightError`: why a preflight refused, with the results behind it. -/
structure PackagePreflightError where
  message : String
  packageManager : Option String
  packages : List String
  results : List CommandResult

/-- `_output_truncated`: the runner cut one of the outputs off. -/
def outputTruncated (result : CommandResult) : Bool :=
  Text.contains result.stdout "[output truncated:" ||
    Text.contains result.stderr "[output truncated:"

/-- `_DIAGNOSTIC_LIMIT`: the most characters of an output that a message quotes. -/
def diagnosticLimit : Nat := 512

/-- `_diagnostic`: the line of a command's output that a message quotes. -/
def diagnostic (result : CommandResult) : String :=
  let output :=
    if Text.strip result.stderr ≠ "" then Text.strip result.stderr else Text.strip result.stdout
  if output = "" then ""
  else
    let firstLine := Text.strip ((Text.lines output).headD "")
    if firstLine.toList.length ≤ diagnosticLimit then firstLine
    else String.ofList (firstLine.toList.take (diagnosticLimit - 1)) ++ "…"

/-- `f"{value}"` of an exit code, which prints `None` where there is none. -/
def formatReturncode : Option Int → String
  | none => "None"
  | some code => toString code

/-- `_diagnostic_suffix`: what a message adds about a command that failed. -/
def diagnosticSuffix (result : CommandResult) : String :=
  if diagnostic result ≠ "" then ": " ++ diagnostic result
  else " (exit " ++ formatReturncode result.returncode ++ ")"

/-! ## The solver's answer -/

/-- A package specification in JSON: a string that is not empty. -/
def jsonSpec : Json.Value → Option String
  | .string text => if text = "" then none else some text
  | _ => none

/-- `_parse_dnf_transaction`: the installs and removals that the DNF script prints. -/
def parseDnfTransaction (result : CommandResult) : Option (List String × List String) :=
  if outputTruncated result then none
  else
    match Json.loads result.stdout with
    | some (.object fields) =>
        match fields.lookup "install", fields.lookup "remove" with
        | some (.array install), some (.array remove) => do
            let installs ← install.mapM jsonSpec
            let removals ← remove.mapM jsonSpec
            if fields.length = 2 ∧ installs.Nodup ∧ removals.Nodup then some (installs, removals)
            else none
        | _, _ => none
    | _ => none

/-- What the transaction script prints for the sets it resolved. -/
def printedTransaction (installs removals : List String) : String :=
  Json.dumps none (.object
    [("install", stringArray (sorted installs)), ("remove", stringArray (sorted removals))])

/-- Specifications that were written are read back. -/
theorem json_specs_written {specs : List String} (h : ∀ spec ∈ specs, spec ≠ "") :
    (specs.map Json.Value.string).mapM jsonSpec = some specs := by
  induction specs with
  | nil => rfl
  | cons spec specs ih =>
      rw [List.map_cons, List.mapM_cons, ih fun other hother => h other
        (List.mem_cons_of_mem _ hother), jsonSpec, if_neg (h spec List.mem_cons_self)]
      rfl

/-- The preflight reads the sets that the script printed. -/
theorem parse_printed_transaction {installs removals : List String} {answer : CommandResult}
    (hne : ∀ spec ∈ installs ++ removals, spec ≠ "") (hinstalls : installs.Nodup)
    (hremovals : removals.Nodup) (hcomplete : outputTruncated answer = false)
    (hprinted : answer.stdout = printedTransaction installs removals ++
      String.ofList [Char.ofNat 10]) :
    parseDnfTransaction answer = some (sorted installs, sorted removals) := by
  have hplain : ∀ specs : List String, Json.Plain (stringArray specs) := fun specs => by
    rw [stringArray, Json.Plain, Json.plain_items_iff]
    intro item hitem
    obtain ⟨spec, -, rfl⟩ := List.mem_map.mp hitem
    trivial
  have hkeys : (["install", "remove"] : List String).Nodup := by decide
  have hloads : Json.loads (printedTransaction installs removals ++ String.ofList [Char.ofNat 10]) =
      some (.object [("install", stringArray (sorted installs)),
        ("remove", stringArray (sorted removals))]) :=
    Json.loads_dumps_newline ⟨hkeys, hplain _, hplain _, trivial⟩
  have hread : ∀ specs : List String, (∀ spec ∈ specs, spec ≠ "") →
      ((sorted specs).map Json.Value.string).mapM jsonSpec = some (sorted specs) :=
    fun specs hspecs => json_specs_written fun spec hspec => hspecs spec (mem_sorted.mp hspec)
  have hinstall := hread installs fun spec hspec => hne spec (List.mem_append_left _ hspec)
  have hremove := hread removals fun spec hspec => hne spec (List.mem_append_right _ hspec)
  rw [parseDnfTransaction, hcomplete, hprinted, hloads]
  simp [stringArray, List.lookup, hinstall, hremove, hinstalls, hremovals]

/-! ## The preflight -/

/-- The installed packages of a list that RPM manages. -/
def installedRpms (packages : List PackageInfo) : List PackageInfo :=
  packages.filter fun package => package.installed && package.manager == some "rpm"

/-- A dictionary from renderings to packages; a later package of one rendering replaces an
earlier one. -/
def packageAt (render : PackageInfo → String) (packages : List PackageInfo) (key : String) :
    Option PackageInfo :=
  packages.reverse.find? fun package => render package = key

/-- `expected_installs` of `_preflight_dnf_transaction`. -/
def recomputedInstalls (snapshot : RollbackSnapshot) (restoreSpecs : List String) :
    List String :=
  (restoreSpecs.filterMap fun spec =>
    (packageAt (snapshotPayloadOperand snapshot) (installedRpms snapshot.packages) spec).map
      rpmPackageSpec).dedup

/-- `replacement_specs` of `_preflight_dnf_transaction`. -/
def replacementSpecs (snapshot : RollbackSnapshot) (audit : HostAudit)
    (restoreSpecs : List String) : List String :=
  let restoreSlots := restoreSpecs.filterMap fun spec =>
    (packageAt (snapshotPayloadOperand snapshot) (installedRpms snapshot.packages) spec).map
      packageSlot
  let current := installedRpms audit.packages
  (current.map rpmPackageSpec).dedup.filter fun spec =>
    (packageAt rpmPackageSpec current spec).any (restoreSlots.contains <| packageSlot ·) &&
      !(recomputedInstalls snapshot restoreSpecs).contains spec

/-- `expected_removals` of `_preflight_dnf_transaction`. -/
def recomputedRemovals (snapshot : RollbackSnapshot) (audit : HostAudit)
    (restoreSpecs removeSpecs : List String) : List String :=
  (removeSpecs ++ replacementSpecs snapshot audit restoreSpecs).dedup

/-- `expected_apply_command` and the command that only checks. -/
def recomputedCommand (apply : Bool) (snapshot : RollbackSnapshot) (audit : HostAudit)
    (restoreSpecs removeSpecs : List String) : List String :=
  dnfLocalTransactionCommand apply restoreSpecs removeSpecs
    (sorted (recomputedInstalls snapshot restoreSpecs))
    (sorted (recomputedRemovals snapshot audit restoreSpecs removeSpecs))

/-- The values of a list that are not in another, sorted: `sorted(left - right)`. -/
def difference (left right : List String) : List String :=
  sorted (left.dedup.filter fun value => !right.contains value)

/-- The first deviation of an observed transaction from the expected one. -/
def transactionDeviation (observedInstalls observedRemovals expectedInstalls
    expectedRemovals : List String) : Option String :=
  let unexpectedInstalls := difference observedInstalls expectedInstalls
  let missingInstalls := difference expectedInstalls observedInstalls
  let unexpectedRemovals := difference observedRemovals expectedRemovals
  let missingRemovals := difference expectedRemovals observedRemovals
  if unexpectedInstalls ≠ [] then
    some ("; solver would install packages outside the exact baseline: " ++
      Text.join ", " unexpectedInstalls)
  else if missingInstalls ≠ [] then
    some ("; solver omitted exact baseline restores: " ++ Text.join ", " missingInstalls)
  else if unexpectedRemovals ≠ [] then
    some ("; solver would remove packages outside the exact rollback set: " ++
      Text.join ", " unexpectedRemovals)
  else if missingRemovals ≠ [] then
    some ("; solver omitted exact rollback removals: " ++ Text.join ", " missingRemovals)
  else none

/-- `_preflight_dnf_transaction`; `run` answers a command that changes nothing. -/
def preflightDnfTransaction (packageManager : String) (restoreSpecs removeSpecs : List String)
    (executionCommands : List (List String)) (snapshot : RollbackSnapshot) (audit : HostAudit)
    (run : List String → CommandResult) (packages : List String)
    (priorResults : List CommandResult) :
    Except PackagePreflightError (List CommandResult) := do
  let error (message : String) (results : List CommandResult) : PackagePreflightError :=
    { message, packageManager := some packageManager, packages, results }
  let unknownRemovals :=
    difference removeSpecs ((installedRpms audit.packages).map rpmPackageSpec)
  refuse (unknownRemovals ≠ [])
    (error ("RPM rollback removal set is not bound to the current exact package inventory: " ++
      Text.join ", " unknownRemovals) priorResults)
  let unknownRestores := difference restoreSpecs
    ((installedRpms snapshot.packages).map (snapshotPayloadOperand snapshot))
  refuse (unknownRestores ≠ [])
    (error ("RPM rollback restore set is not bound to the exact package baseline: " ++
      Text.join ", " unknownRestores) priorResults)
  -- The command is computed a second time from its operands, and the two have to be the same.
  refuse (executionCommands ≠ [recomputedCommand true snapshot audit restoreSpecs removeSpecs])
    (error "RPM rollback execution is not bound to the exact proven transaction" priorResults)
  let result := run (recomputedCommand false snapshot audit restoreSpecs removeSpecs)
  let malformed := ": solver emitted malformed or truncated transaction evidence"
  refuse (result.returncode ≠ some 0)
    (error ("RPM rollback could not resolve the exact retained local transaction" ++
      diagnosticSuffix result) (priorResults ++ [result]))
  match parseDnfTransaction result with
  | none =>
      throw (error ("RPM rollback could not resolve the exact retained local transaction" ++
        malformed) (priorResults ++ [result]))
  | some (observedInstalls, observedRemovals) =>
      match transactionDeviation observedInstalls observedRemovals
          (recomputedInstalls snapshot restoreSpecs)
          (recomputedRemovals snapshot audit restoreSpecs removeSpecs) with
      | some detail =>
          throw (error ("RPM rollback cannot safely apply the resolved transaction" ++ detail)
            (priorResults ++ [result]))
      | none => pure [result]

/-! ## Sets behind the specs -/

variable {snapshot : RollbackSnapshot} {audit : HostAudit} {manager : PackageManager}
  {path : AbsolutePath} {bundle : PackagePayloadBundle} {package : PackageInfo}

/-- Sorting forgets the order in which distinct values came. -/
theorem sorted_eq_iff {values others : List String} (h : values.Nodup) (h' : others.Nodup) :
    sorted values = sorted others ↔ ∀ value, value ∈ values ↔ value ∈ others := by
  constructor
  · intro heq value
    rw [← mem_sorted, heq, mem_sorted]
  · intro hmem
    have hperm : (sorted values).Perm (sorted others) :=
      (sorted_perm values).trans (((List.perm_ext_iff_of_nodup h h').mpr hmem).trans
        (sorted_perm others).symm)
    exact hperm.eq_of_pairwise (fun _ _ _ _ hle hle' => String.le_antisymm hle hle')
      (List.pairwise_insertionSort _ _) (List.pairwise_insertionSort _ _)

/-- Nothing is left of values that another list holds. -/
theorem difference_eq_nil {left right : List String} :
    difference left right = [] ↔ ∀ value ∈ left, value ∈ right := by
  rw [difference, sorted_eq_nil, List.filter_eq_nil_iff]
  simp

/-- The packages of an RPM inventory are installed RPM packages. -/
theorem installed_rpms_eq {packages : List PackageInfo} (h : Inventory manager packages)
    (hmanager : manager ≠ .aptGet) : installedRpms packages = packages := by
  refine List.filter_eq_self.mpr fun package hpackage => ?_
  have hrow := h.rows package hpackage
  have hrpm : package.manager = some "rpm" := by
    rw [hrow.backend, expectedManager, if_neg hmanager]
  simp [hrow.installed, hrpm]

/-- A rendering that tells packages apart finds each of them. -/
theorem package_at_eq {render : PackageInfo → String} {packages : List PackageInfo}
    (hdistinct : (packages.map packageStateIdentity).Nodup)
    (hinj : ∀ package ∈ packages, ∀ other ∈ packages, render package = render other →
      packageStateIdentity package = packageStateIdentity other)
    (hmem : package ∈ packages) : packageAt render packages (render package) = some package := by
  cases hfound : packageAt render packages (render package) with
  | none =>
      have hnone := List.find?_eq_none.mp hfound package (List.mem_reverse.mpr hmem)
      simp at hnone
  | some other =>
      have hother := List.mem_reverse.mp (List.mem_of_find?_eq_some hfound)
      have hrender : render other = render package := by
        simpa using List.find?_some hfound
      rw [List.inj_on_of_nodup_map hdistinct hother hmem (hinj other hother package hmem hrender)]

/-- Renderings that tell packages apart are the same for two sets of packages exactly when the
sets are. -/
theorem specs_eq_iff {render : PackageInfo → String} {packages : List PackageInfo}
    (hinj : ∀ package ∈ packages, ∀ other ∈ packages, render package = render other →
      packageStateIdentity package = packageStateIdentity other)
    {left right : Set PackageState} (hleft : left ⊆ installedStates packages)
    (hright : right ⊆ installedStates packages) :
    (∀ spec,
      (∃ package ∈ packages, packageStateIdentity package ∈ left ∧ render package = spec) ↔
        ∃ package ∈ packages, packageStateIdentity package ∈ right ∧ render package = spec) ↔
      left = right := by
  have hsub : ∀ {left right : Set PackageState}, left ⊆ installedStates packages →
      (∀ spec,
        (∃ package ∈ packages, packageStateIdentity package ∈ left ∧ render package = spec) →
          ∃ package ∈ packages, packageStateIdentity package ∈ right ∧ render package = spec) →
      left ⊆ right := by
    intro left right hleft hspecs state hstate
    obtain ⟨package, hmem, -, rfl⟩ := hleft hstate
    obtain ⟨other, hother, hright, heq⟩ := hspecs _ ⟨package, hmem, hstate, rfl⟩
    exact hinj other hother package hmem heq ▸ hright
  constructor
  · intro hspecs
    exact Set.Subset.antisymm (hsub hleft fun spec => (hspecs spec).mp)
      (hsub hright fun spec => (hspecs spec).mpr)
  · rintro rfl spec
    rfl

/-- The audited packages in the slots that the rollback restores. -/
def occupants (snapshot : RollbackSnapshot) (audit : HostAudit) : List PackageInfo :=
  audit.packages.filter fun package =>
    ((restorePackages snapshot audit).map packageSlot).contains (packageSlot package)

section Recomputed

variable (h : RetainedBaseline snapshot manager path bundle)
  (haudit : Inventory manager audit.packages) (hmanager : manager ≠ .aptGet)

include h hmanager in
/-- The restore operands stand for the packages that the delta restores. -/
theorem restored_at_operands {α : Type} (read : PackageInfo → α) :
    ((deltaPaths snapshot audit).filterMap fun spec =>
      (packageAt (snapshotPayloadOperand snapshot) (installedRpms snapshot.packages) spec).map read)
      = (restorePackages snapshot audit).map read := by
  rw [installed_rpms_eq h.inventory hmanager, deltaPaths, List.filterMap_map,
    ← List.filterMap_eq_map]
  refine List.filterMap_congr fun package hpackage => ?_
  have hfound := package_at_eq h.inventory.distinct
    (fun package hpackage other hother => h.operand_injective hpackage hother)
    (restore_packages_subset h.inventory package hpackage)
  simp [hfound]

include h hmanager in
/-- The recomputed installs are the restored packages. -/
theorem recomputed_installs_eq :
    recomputedInstalls snapshot (deltaPaths snapshot audit) =
      (restorePackages snapshot audit).map rpmPackageSpec := by
  rw [recomputedInstalls, restored_at_operands h hmanager]
  refine List.Nodup.dedup ?_
  have hdistinct : ((restorePackages snapshot audit).map packageStateIdentity).Nodup :=
    h.inventory.distinct.sublist (List.filter_sublist.map _)
  refine (List.Nodup.of_map _ hdistinct).map_on ?_
  intro package hpackage other hother heq
  refine List.inj_on_of_nodup_map hdistinct hpackage hother ?_
  have hsub : ∀ package ∈ restorePackages snapshot audit, package ∈ snapshot.packages :=
    restore_packages_subset h.inventory
  exact rpm_package_spec_injective ((h.inventory.rows package (hsub package hpackage)).rpm hmanager)
    ((h.inventory.rows other (hsub other hother)).rpm hmanager) heq

include h haudit hmanager in
/-- The replacements are the packages in restored slots. -/
theorem mem_replacement_specs {spec : String} :
    spec ∈ replacementSpecs snapshot audit (deltaPaths snapshot audit) ↔
      ∃ package ∈ occupants snapshot audit, rpmPackageSpec package = spec := by
  have hrpm : ∀ {package}, package ∈ audit.packages → RpmFields package :=
    fun hpackage => (haudit.rows _ hpackage).rpm hmanager
  have hat : ∀ package ∈ audit.packages,
      packageAt rpmPackageSpec audit.packages (rpmPackageSpec package) = some package := by
    intro package hpackage
    exact package_at_eq haudit.distinct (fun package hpackage other hother =>
      rpm_package_spec_injective (hrpm hpackage) (hrpm hother)) hpackage
  -- A package that is installed is not restored, so its spec is no expected install.
  have hnew : ∀ package ∈ audit.packages, rpmPackageSpec package ∉
      recomputedInstalls snapshot (deltaPaths snapshot audit) := by
    intro package hpackage hspec
    rw [recomputed_installs_eq h hmanager] at hspec
    obtain ⟨other, hother, heq⟩ := List.mem_map.mp hspec
    obtain ⟨hmem, hcurrent⟩ := (mem_restore_packages h.inventory).mp hother
    refine hcurrent ?_
    rw [rpm_package_spec_injective ((h.inventory.rows other hmem).rpm hmanager) (hrpm hpackage) heq]
    exact identity_mem_installed_states hpackage (haudit.rows package hpackage).installed
  rw [replacementSpecs, installed_rpms_eq haudit hmanager, restored_at_operands h hmanager,
    List.mem_filter, List.mem_dedup, List.mem_map]
  constructor
  · rintro ⟨⟨package, hpackage, rfl⟩, hkept⟩
    rw [hat package hpackage] at hkept
    simp only [Option.any_some, Bool.and_eq_true] at hkept
    exact ⟨package, List.mem_filter.mpr ⟨hpackage, hkept.1⟩, rfl⟩
  · rintro ⟨package, hpackage, rfl⟩
    obtain ⟨hmem, hslot⟩ := List.mem_filter.mp hpackage
    refine ⟨⟨package, hmem, rfl⟩, ?_⟩
    rw [hat package hmem, Option.any_some, Bool.and_eq_true]
    exact ⟨hslot, by simpa using hnew package hmem⟩

include h haudit in
/-- An occupant is audited, and its slot is that of a missing identity. -/
theorem mem_occupants : package ∈ occupants snapshot audit ↔
    package ∈ audit.packages ∧ packageStateIdentity package ∈
      {state ∈ audit.states |
        stateSlot state ∈ stateSlot '' missing snapshot.states audit.states} := by
  rw [occupants, List.mem_filter]
  refine and_congr_right fun hmem => ?_
  rw [List.contains_iff_mem, List.mem_map, ← restore_states h.inventory]
  constructor
  · rintro ⟨other, hother, heq⟩
    exact ⟨identity_mem_installed_states hmem (haudit.rows package hmem).installed,
      _, ⟨other, hother, rfl⟩, heq⟩
  · rintro ⟨-, _, ⟨other, hother, rfl⟩, heq⟩
    exact ⟨other, hother, heq⟩

include h haudit hmanager in
/-- The removals that the preflight expects are those of added packages and of the occupants of
restored slots. -/
theorem mem_recomputed_removals (hrpm : manager = .dnf ∨ manager = .yum) {spec : String} :
    spec ∈ recomputedRemovals snapshot audit (deltaPaths snapshot audit)
        (deltaRemovals snapshot audit) ↔
      ∃ package ∈ audit.packages,
        packageStateIdentity package ∈ added stateSlot snapshot.states audit.states ∪
            {state ∈ audit.states |
              stateSlot state ∈ stateSlot '' missing snapshot.states audit.states} ∧
          rpmPackageSpec package = spec := by
  have hspec : removalSpec manager = rpmPackageSpec := by
    rcases hrpm with rfl | rfl <;> rfl
  rw [recomputedRemovals, List.mem_dedup, List.mem_append, mem_replacement_specs h haudit hmanager,
    deltaRemovals, h.backend, mem_package_removal_specs, hspec]
  constructor
  · rintro (⟨package, hadded, rfl⟩ | ⟨package, hoccupant, rfl⟩)
    · obtain ⟨hmem, -, hstate⟩ := mem_added_packages.mp hadded
      exact ⟨package, hmem, .inl hstate, rfl⟩
    · obtain ⟨hmem, hstate⟩ := (mem_occupants h haudit).mp hoccupant
      exact ⟨package, hmem, .inr hstate, rfl⟩
  · rintro ⟨package, hmem, hstate | hstate, rfl⟩
    · have hinstalled := (haudit.rows package hmem).installed
      exact .inl ⟨package, mem_added_packages.mpr ⟨hmem, hinstalled, hstate⟩, rfl⟩
    · exact .inr ⟨package, (mem_occupants h haudit).mpr ⟨hmem, hstate⟩, rfl⟩

include h haudit hmanager in
/-- The removals that the derived command expects. -/
theorem mem_delta_removal_specs (hrpm : manager = .dnf ∨ manager = .yum) {spec : String} :
    spec ∈ deltaRemovalSpecs snapshot audit ↔
      ∃ package ∈ audit.packages,
        packageStateIdentity package ∈ audit.states \ snapshot.states ∧
          rpmPackageSpec package = spec := by
  have hspec : removalSpec manager = rpmPackageSpec := by
    rcases hrpm with rfl | rfl <;> rfl
  rw [deltaRemovalSpecs, mem_sorted, List.mem_dedup, List.mem_append, deltaRemovals, h.backend,
    mem_package_removal_specs, hspec, List.mem_map,
      ← @SlotDelta.added_union_displaced _ _ stateSlot]
  constructor
  · rintro (⟨package, hadded, rfl⟩ | ⟨package, hdisplaced, rfl⟩)
    · obtain ⟨hmem, -, hstate⟩ := mem_added_packages.mp hadded
      exact ⟨package, hmem, .inl hstate, rfl⟩
    · obtain ⟨hmem, hstate⟩ := (mem_displaced_packages h.inventory haudit hmanager).mp hdisplaced
      exact ⟨package, hmem, .inr hstate, rfl⟩
  · rintro ⟨package, hmem, hstate | hstate, rfl⟩
    · have hinstalled := (haudit.rows package hmem).installed
      exact .inl ⟨package, mem_added_packages.mpr ⟨hmem, hinstalled, hstate⟩, rfl⟩
    · exact .inr ⟨package, (mem_displaced_packages h.inventory haudit hmanager).mpr
        ⟨hmem, hstate⟩, rfl⟩

include h haudit hmanager in
/-- Both formulas give the same removals exactly when every restored slot is restored whole. -/
theorem recomputed_removals_eq_iff (hrpm : manager = .dnf ∨ manager = .yum) :
    sorted (recomputedRemovals snapshot audit (deltaPaths snapshot audit)
        (deltaRemovals snapshot audit)) = deltaRemovalSpecs snapshot audit ↔
      WholeSlots stateSlot snapshot.states audit.states := by
  have hinj : ∀ package ∈ audit.packages, ∀ other ∈ audit.packages,
      rpmPackageSpec package = rpmPackageSpec other →
        packageStateIdentity package = packageStateIdentity other :=
    fun package hpackage other hother => rpm_package_spec_injective
      ((haudit.rows package hpackage).rpm hmanager) ((haudit.rows other hother).rpm hmanager)
  have hnodup : (recomputedRemovals snapshot audit (deltaPaths snapshot audit)
      (deltaRemovals snapshot audit)).Nodup := List.nodup_dedup _
  rw [← SlotDelta.occupants_eq_extra_iff, ← specs_eq_iff hinj
    (Set.union_subset (fun _ hadded => hadded.1.1) fun _ hoccupant => hoccupant.1)
    Set.sdiff_subset, deltaRemovalSpecs, sorted_eq_iff hnodup (List.nodup_dedup _)]
  refine forall_congr' fun spec => ?_
  rw [mem_recomputed_removals h haudit hmanager hrpm, ← mem_sorted, ← deltaRemovalSpecs,
    mem_delta_removal_specs h haudit hmanager hrpm]

include h haudit hmanager in
/-- The derived command is the recomputed one exactly when every restored slot is restored
whole. -/
theorem derived_command_recomputed_iff (hrpm : manager = .dnf ∨ manager = .yum) :
    deltaCommand manager (deltaPaths snapshot audit) (deltaRemovals snapshot audit)
        (deltaInstallSpecs snapshot audit) (deltaRemovalSpecs snapshot audit) =
        recomputedCommand true snapshot audit (deltaPaths snapshot audit)
          (deltaRemovals snapshot audit) ↔
      WholeSlots stateSlot snapshot.states audit.states := by
  have hcommand : ∀ paths removals installs removed : List String,
      deltaCommand manager paths removals installs removed =
        dnfLocalTransactionCommand true paths removals installs removed := by
    rcases hrpm with rfl | rfl <;> exact fun _ _ _ _ => rfl
  rw [hcommand, recomputedCommand, recomputed_installs_eq h hmanager, ← deltaInstallSpecs,
    ← recomputed_removals_eq_iff h haudit hmanager hrpm, eq_comm]
  simp [dnfLocalTransactionCommand]

include h in
/-- The operands of the derived commands are known to the preflight. -/
theorem delta_operands_known (haudit : Inventory manager audit.packages)
    (hrpm : manager = .dnf ∨ manager = .yum) :
    difference (deltaRemovals snapshot audit) ((installedRpms audit.packages).map rpmPackageSpec)
        = [] ∧
      difference (deltaPaths snapshot audit)
        ((installedRpms snapshot.packages).map (snapshotPayloadOperand snapshot)) = [] := by
  have hmanager : manager ≠ .aptGet := by
    rcases hrpm with rfl | rfl <;> decide
  have hspec : removalSpec manager = rpmPackageSpec := by
    rcases hrpm with rfl | rfl <;> rfl
  rw [difference_eq_nil, difference_eq_nil, installed_rpms_eq haudit hmanager,
    installed_rpms_eq h.inventory hmanager]
  constructor
  · intro spec hmem
    rw [deltaRemovals, h.backend, mem_package_removal_specs, hspec] at hmem
    obtain ⟨package, hpackage, rfl⟩ := hmem
    exact List.mem_map_of_mem (mem_added_packages.mp hpackage).1
  · intro text hmem
    obtain ⟨package, hpackage, rfl⟩ := List.mem_map.mp hmem
    exact List.mem_map_of_mem (restore_packages_subset h.inventory package hpackage)

end Recomputed

/-! ## Planner and preflight agree -/

/-- A solver's answer that names exactly the expected installs and removals of the commands. -/
def ExactAnswer (commands : List (List String)) (answer : CommandResult) : Prop :=
  answer.returncode = some 0 ∧ ∃ installs removals,
    parseDnfTransaction answer = some (installs, removals) ∧
      (∀ spec, spec ∈ installs ↔
        spec ∈ commands.flatMap fun command => (dnfExpectations command).1) ∧
      ∀ spec, spec ∈ removals ↔
        spec ∈ commands.flatMap fun command => (dnfExpectations command).2

/-- Nothing deviates between lists with the same members. -/
theorem no_transaction_deviation {installs removals expectedInstalls expectedRemovals : List String}
    (hinstalls : ∀ spec, spec ∈ installs ↔ spec ∈ expectedInstalls)
    (hremovals : ∀ spec, spec ∈ removals ↔ spec ∈ expectedRemovals) :
    transactionDeviation installs removals expectedInstalls expectedRemovals = none := by
  rw [transactionDeviation, difference_eq_nil.mpr fun spec => (hinstalls spec).mp,
    difference_eq_nil.mpr fun spec => (hinstalls spec).mpr,
    difference_eq_nil.mpr fun spec => (hremovals spec).mp,
    difference_eq_nil.mpr fun spec => (hremovals spec).mpr]
  simp

/-- The preflight returns the answer to a bound transaction without deviation. -/
theorem preflight_dnf_transaction_ok {packageManager : String}
    {restoreSpecs removeSpecs packages installs removals : List String}
    {run : List String → CommandResult} {priorResults : List CommandResult}
    (hremoves : difference removeSpecs ((installedRpms audit.packages).map rpmPackageSpec) = [])
    (hrestores : difference restoreSpecs
      ((installedRpms snapshot.packages).map (snapshotPayloadOperand snapshot)) = [])
    (hcode : (run (recomputedCommand false snapshot audit restoreSpecs removeSpecs)).returncode =
      some 0)
    (hparsed : parseDnfTransaction
      (run (recomputedCommand false snapshot audit restoreSpecs removeSpecs)) =
        some (installs, removals))
    (hsame : transactionDeviation installs removals (recomputedInstalls snapshot restoreSpecs)
      (recomputedRemovals snapshot audit restoreSpecs removeSpecs) = none) :
    preflightDnfTransaction packageManager restoreSpecs removeSpecs
        [recomputedCommand true snapshot audit restoreSpecs removeSpecs] snapshot audit run packages
        priorResults =
      .ok [run (recomputedCommand false snapshot audit restoreSpecs removeSpecs)] := by
  unfold preflightDnfTransaction
  simp only [hremoves, hrestores, hcode, hparsed, hsame]
  simp only [Result.refuse_of_not (not_not.mpr rfl), Result.ok_bind]
  rfl

/-- The preflight refuses every other execution, whatever the solver says. -/
theorem preflight_dnf_transaction_unbound {packageManager : String}
    {restoreSpecs removeSpecs packages : List String} {executionCommands : List (List String)}
    {run : List String → CommandResult} {priorResults : List CommandResult}
    (hremoves : difference removeSpecs ((installedRpms audit.packages).map rpmPackageSpec) = [])
    (hrestores : difference restoreSpecs
      ((installedRpms snapshot.packages).map (snapshotPayloadOperand snapshot)) = [])
    (hunbound : executionCommands ≠
      [recomputedCommand true snapshot audit restoreSpecs removeSpecs]) :
    preflightDnfTransaction packageManager restoreSpecs removeSpecs executionCommands snapshot
        audit run packages priorResults =
      .error
        { message := "RPM rollback execution is not bound to the exact proven transaction"
          packageManager := some packageManager
          packages
          results := priorResults } := by
  unfold preflightDnfTransaction
  simp only [hremoves, hrestores, refuse, if_pos hunbound]
  rfl

/-- The derived commands are none or the recomputed one, which the preflight then accepts with
every exact answer, exactly when every restored slot is restored whole. -/
theorem dnf_rollback_bound_iff (h : RetainedBaseline snapshot manager path bundle)
    (haudit : Inventory manager audit.packages) (hrpm : manager = .dnf ∨ manager = .yum) :
    ∃ commands, rollbackPackageCommands snapshot (some audit) = .ok commands ∧
      let restoreSpecs := commands.flatMap rollbackRestoreSpecs
      let removeSpecs := commands.flatMap rollbackRemoveSpecs
      ((commands = [] ∨
          commands = [recomputedCommand true snapshot audit restoreSpecs removeSpecs] ∧
            ∀ (run : List String → CommandResult) (packages : List String)
              (priorResults : List CommandResult),
              ExactAnswer commands
                  (run (recomputedCommand false snapshot audit restoreSpecs removeSpecs)) →
                preflightDnfTransaction manager.name restoreSpecs removeSpecs commands snapshot
                    audit run packages priorResults =
                  .ok [run (recomputedCommand false snapshot audit restoreSpecs removeSpecs)]) ↔
        WholeSlots stateSlot snapshot.states audit.states) := by
  have hmanager : manager ≠ .aptGet := by
    rcases hrpm with rfl | rfl <;> decide
  obtain ⟨commands, hcommands, hrestores, hremoves, hexpected⟩ := derived_operands h haudit
  obtain ⟨hinstallSpecs, hremovalSpecs⟩ := hexpected hrpm
  have hderived := derived_rollback_commands h audit
  rw [hcommands, Except.ok.injEq] at hderived
  have hbound := derived_command_recomputed_iff h haudit hmanager hrpm
  refine ⟨commands, hcommands, ?_⟩
  simp only [hrestores, hremoves]
  split at hderived
  · next hempty =>
      -- Nothing is missing, so no slot is restored.
      refine iff_of_true (.inl hderived) ?_
      have hnone : missing snapshot.states audit.states = ∅ := by
        rw [← restore_states h.inventory, List.map_eq_nil_iff.mp hempty.1]
        simp
      rw [WholeSlots, hnone, Set.image_empty]
      exact Set.empty_disjoint _
  · rw [← hbound]
    constructor
    · rintro (hnil | ⟨heq, -⟩)
      · rw [hnil] at hderived
        cases hderived
      · rw [hderived] at heq
        exact List.singleton_inj.mp heq
    · intro hsame
      have hcommands : commands = [recomputedCommand true snapshot audit
          (deltaPaths snapshot audit) (deltaRemovals snapshot audit)] := by
        rw [hderived, hsame]
      refine .inr ⟨hcommands, fun run packages priorResults hanswer => ?_⟩
      obtain ⟨hcode, installs, removals, hparsed, hinstalls, hremovals⟩ := hanswer
      rw [hinstallSpecs] at hinstalls
      rw [hremovalSpecs] at hremovals
      obtain ⟨hknownRemovals, hknownRestores⟩ := delta_operands_known h haudit hrpm
      rw [hcommands]
      refine preflight_dnf_transaction_ok hknownRemovals hknownRestores hcode hparsed ?_
      refine no_transaction_deviation (fun spec => ?_) fun spec => ?_
      · rw [hinstalls, deltaInstallSpecs, mem_sorted, recomputed_installs_eq h hmanager]
      · rw [hremovals, ← (recomputed_removals_eq_iff h haudit hmanager hrpm).mpr
          (hbound.mp hsame), mem_sorted]

/-- A host that lost both versions of a package can be rolled back. -/
theorem dnf_rollback_bound_iff_devel :
    ∃ commands, rollbackPackageCommands (develSnapshot .dnf) (some (develAudit .dnf ["3"])) =
        .ok commands ∧
      (commands = [] ∨ commands = [recomputedCommand true (develSnapshot .dnf)
        (develAudit .dnf ["3"]) (commands.flatMap rollbackRestoreSpecs)
        (commands.flatMap rollbackRemoveSpecs)]) := by
  obtain ⟨commands, hcommands, hbound⟩ := dnf_rollback_bound_iff (devel_retained .dnf (by decide))
    (devel_audited .dnf (by decide) ["3"] (by decide) (by decide)) (.inl rfl)
  have hwhole : WholeSlots stateSlot (develSnapshot .dnf).states
      (develAudit .dnf ["3"]).states := by
    have hnone : (develAudit .dnf ["3"]).states ∩ (develSnapshot .dnf).states = ∅ := by
      rw [Set.eq_empty_iff_forall_notMem]
      rintro _ ⟨⟨package, hpackage, -, rfl⟩, hbaseline⟩
      obtain rfl := List.mem_singleton.mp hpackage
      exact absurd (devel_baseline_iff.mp hbaseline) (by simp)
    rw [WholeSlots, hnone, Set.image_empty]
    exact Set.disjoint_empty _
  rcases hbound.mpr hwhole with hnil | ⟨heq, -⟩
  · exact ⟨commands, hcommands, .inl hnil⟩
  · exact ⟨commands, hcommands, .inr heq⟩

/-- A host that kept one of two versions is refused its rollback, whatever the solver says. -/
theorem kept_version_refused :
    ∃ commands, rollbackPackageCommands (develSnapshot .dnf) (some (develAudit .dnf ["1"])) =
        .ok commands ∧ commands ≠ [] ∧
      ∀ (run : List String → CommandResult) (packages : List String)
        (priorResults : List CommandResult),
        preflightDnfTransaction "dnf" (commands.flatMap rollbackRestoreSpecs)
            (commands.flatMap rollbackRemoveSpecs) commands (develSnapshot .dnf)
            (develAudit .dnf ["1"]) run packages priorResults =
          .error
            { message := "RPM rollback execution is not bound to the exact proven transaction"
              packageManager := some "dnf"
              packages
              results := priorResults } := by
  have hretained := devel_retained .dnf (by decide)
  have haudited := devel_audited .dnf (by decide) ["1"] (by decide) (by decide)
  obtain ⟨commands, hcommands, hrestores, hremoves, -⟩ := derived_operands hretained haudited
  have hderived := derived_rollback_commands hretained (develAudit .dnf ["1"])
  rw [hcommands, Except.ok.injEq] at hderived
  have hsome : deltaPaths (develSnapshot .dnf) (develAudit .dnf ["1"]) ≠ [] := by
    have hmem : develPackage .dnf "2" ∈
        restorePackages (develSnapshot .dnf) (develAudit .dnf ["1"]) :=
      (mem_restore_packages hretained.inventory).mpr
        ⟨List.mem_cons_of_mem _ List.mem_cons_self,
          fun hshown => absurd (devel_audited_iff.mp hshown) (by simp)⟩
    exact List.ne_nil_of_mem (List.mem_map_of_mem hmem)
  rw [if_neg fun hnil => hsome hnil.1] at hderived
  have hunbound : commands ≠ [recomputedCommand true (develSnapshot .dnf) (develAudit .dnf ["1"])
      (commands.flatMap rollbackRestoreSpecs) (commands.flatMap rollbackRemoveSpecs)] := by
    rw [hrestores, hremoves, hderived]
    intro heq
    exact devel_slots_not_whole .dnf (by simp) (by simp)
      ((derived_command_recomputed_iff hretained haudited (by decide) (.inl rfl)).mp
        (List.singleton_inj.mp heq))
  refine ⟨commands, hcommands, by rw [hderived]; exact List.cons_ne_nil _ _, ?_⟩
  intro run packages priorResults
  obtain ⟨hknownRemovals, hknownRestores⟩ := delta_operands_known hretained haudited (.inl rfl)
  rw [hrestores, hremoves] at hunbound ⊢
  exact preflight_dnf_transaction_unbound hknownRemovals hknownRestores hunbound

end NvidiaConverge
