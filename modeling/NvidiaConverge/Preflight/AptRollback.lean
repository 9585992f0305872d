import NvidiaConverge.Preflight.AptForward
import NvidiaConverge.Preflight.AptSimulation

/-!
# The APT rollback preflight

`_apt_rollback_transaction_error` and what it accepts of a simulation that purges. The parser
reads no `Purg` line and no `Inst` line with broken packages behind it, so
`apt_rollback_error_eq_none_iff` accepts exactly the transactions without such a line whose installs
are the requested ones where no removal is requested. `apt_rollback_decides_iff` compares that with
the exact transactions.
-/

namespace NvidiaConverge

open Posix (AbsolutePath)

/-- `snapshot_by_spec`, with the packages it keeps. -/
def aptBaselineOperands (snapshot : RollbackSnapshot) (native : String) :
    List (String × AptIdentity) :=
  snapshot.packages.filterMap fun package =>
    let spec := snapshotPayloadOperand snapshot package
    match aptIdentity package native with
    | some identity => if spec = "" then none else some (spec, identity)
    | none => none

/-- `audit_by_remove_spec`, with the packages it keeps. -/
def aptCurrentOperands (audit : HostAudit) (native : String) : List (String × AptIdentity) :=
  audit.packages.filterMap fun package =>
    match aptRemoveSpec package, aptIdentity package native with
    | some spec, some identity => some (spec, identity)
    | _, _ => none

/-- The first deviation of an `Inst` line from the inventory. -/
def aptReplacementError (current : List AptIdentity) (install : AptInstall) : Option String :=
  match currentAtSlot current install.slot with
  | none =>
      match install.old with
      | none => none
      | some old =>
          some ("solver reported an unobserved replaced package: " ++
            formatAptIdentity (install.name, install.architecture, old))
  | some identity =>
      if install.old = some identity.2.2 then none
      else
        some ("solver replacement does not match the current exact package: " ++
          formatAptIdentity identity)

/-- The first deviation of the observed transaction from the expected one. -/
def aptRollbackDeviation (observedInstalls observedRemovals expectedInstalls
    expectedRemovals : List AptIdentity) : Option String :=
  let unexpectedInstalls := aptDifference observedInstalls expectedInstalls
  let missingInstalls := aptDifference expectedInstalls observedInstalls
  let unexpectedRemovals := aptDifference observedRemovals expectedRemovals
  let missingRemovals := aptDifference expectedRemovals observedRemovals
  if unexpectedInstalls ≠ [] then
    some ("solver would install a package outside the exact baseline: " ++
      Text.join ", " unexpectedInstalls)
  else if missingInstalls ≠ [] then
    some ("solver omitted an exact baseline restore: " ++ Text.join ", " missingInstalls)
  else if unexpectedRemovals ≠ [] then
    some ("solver would remove a package outside the exact rollback set: " ++
      Text.join ", " unexpectedRemovals)
  else if missingRemovals ≠ [] then
    some ("solver omitted an exact rollback removal: " ++ Text.join ", " missingRemovals)
  else none

/-- `_apt_rollback_transaction_error`: why a simulated rollback is refused, if it is. -/
def aptRollbackTransactionError (result : CommandResult) (snapshot : RollbackSnapshot)
    (audit : HostAudit) (restoreSpecs removeSpecs : List String) (native : String) :
    Option String :=
  match parseAptTransaction result with
  | none => some "machine-readable transaction actions are malformed or truncated"
  | some (installs, rawRemovals) =>
      let baseline := aptBaselineOperands snapshot native
      let current := aptCurrentOperands audit native
      let identities := (current.map Prod.snd).dedup
      if ¬ (baseline.map Prod.fst).Nodup then
        some "the package baseline contains duplicate APT restore identities"
      else if ¬ ((current.map Prod.fst).Nodup ∧ (current.map (aptSlot ·.2)).Nodup) then
        some "the current APT inventory contains duplicate package slots"
      else if ¬ ((∀ spec ∈ restoreSpecs, spec ∈ baseline.map Prod.fst) ∧
          ∀ spec ∈ removeSpecs, spec ∈ current.map Prod.fst) then
        some "transaction operands are not bound to exact APT package inventory"
      else
        match installs.findSome? (aptReplacementError identities) with
        | some error => some error
        | none =>
            match rawRemovals.mapM fun removal => resolveAptRemoval removal identities native with
            | none => some "solver removal is not bound to one current exact package identity"
            | some observedRemovals =>
                aptRollbackDeviation (installs.map AptInstall.identity) observedRemovals
                  (restoreSpecs.filterMap (List.lookup · baseline))
                  (removeSpecs.filterMap (List.lookup · current))

/-! ## Exact outcomes -/

/-- The APT identities of some packages, in their order. -/
def aptIdentities (packages : List PackageInfo) (native : String) : List AptIdentity :=
  packages.filterMap fun package => aptIdentity package native

/-- The simulation installs exactly the baseline identities that are missing, each in place of
the version that the audit shows in its slot. -/
def ExactInstalls (snapshot : RollbackSnapshot) (audit : HostAudit) (native : String)
    (lines : List SimulationLine) : Prop :=
  (∀ identity, identity ∈ (simulatedInstalls lines).map AptInstall.identity ↔
    identity ∈ aptIdentities (restorePackages snapshot audit) native) ∧
  ∀ install ∈ simulatedInstalls lines,
    install.old =
      (currentAtSlot (aptIdentities audit.packages native) install.slot).map (·.2.2)

/-- The simulation removes exactly the added packages. -/
def ExactRemovals (snapshot : RollbackSnapshot) (audit : HostAudit) (native : String)
    (lines : List SimulationLine) : Prop :=
  ∀ identity, identity ∈ simulatedRemovals lines ↔
    identity ∈ aptIdentities (addedPackages snapshot audit) native

variable {snapshot : RollbackSnapshot} {audit : HostAudit} {path : AbsolutePath}
  {bundle : PackagePayloadBundle} {native : String} {package : PackageInfo}

/-- The APT identity of a row of dpkg. -/
def rowIdentity (package : PackageInfo) : AptIdentity :=
  (package.name, package.architecture.getD "", package.version.getD "")

/-- Every row of a dpkg inventory has an identity. -/
theorem apt_identity_row (h : InventoryRow .aptGet package) :
    aptIdentity package native = some (rowIdentity package) := by
  have hapt : package.manager = some "apt" := h.backend
  obtain ⟨architecture, harch, hne, -⟩ := h.apt.architecture
  have hversion := h.apt.version
  cases hv : package.version with
  | none => simp [hv, truthy] at hversion
  | some version =>
      have hversion : version ≠ "" := by simpa [hv, truthy] using hversion
      simp [aptIdentity, h.installed, hapt, architectureOr, harch, truthy, hne, formatOption, hv,
        hversion, rowIdentity]

/-- The identities of an inventory are those of its rows. -/
theorem apt_identities_eq {packages : List PackageInfo}
    (h : ∀ package ∈ packages, InventoryRow .aptGet package) :
    aptIdentities packages native = packages.map rowIdentity := by
  rw [aptIdentities, ← List.filterMap_eq_map]
  exact List.filterMap_congr fun package hpackage => apt_identity_row (h package hpackage)

/-- Slots of rows are slots of their identities. -/
theorem row_slot_eq_iff {other : PackageInfo} (h : InventoryRow .aptGet package)
    (h' : InventoryRow .aptGet other) :
    aptSlot (rowIdentity package) = aptSlot (rowIdentity other) ↔
      packageSlot package = packageSlot other := by
  obtain ⟨architecture, harch, -⟩ := h.apt.architecture
  obtain ⟨architecture', harch', -⟩ := h'.apt.architecture
  simp [aptSlot, rowIdentity, packageSlot, harch, harch']

/-- The identities of an inventory occupy different slots. -/
theorem row_slots_nodup {packages : List PackageInfo} (h : Inventory .aptGet packages) :
    (packages.map fun package => aptSlot (rowIdentity package)).Nodup := by
  refine (List.Nodup.of_map _ (h.slots rfl)).map_on ?_
  intro package hpackage other hother heq
  exact List.inj_on_of_nodup_map (h.slots rfl) hpackage hother
    ((row_slot_eq_iff (h.rows package hpackage) (h.rows other hother)).mp heq)

/-! ## The operands -/

/-- The restore operands that the preflight knows. -/
theorem apt_baseline_operands_eq (h : RetainedBaseline snapshot .aptGet path bundle) :
    aptBaselineOperands snapshot native =
      snapshot.packages.map fun package =>
        (snapshotPayloadOperand snapshot package, rowIdentity package) := by
  rw [aptBaselineOperands, ← List.filterMap_eq_map]
  refine List.filterMap_congr fun package hpackage => ?_
  have hne : snapshotPayloadOperand snapshot package ≠ "" := by
    obtain ⟨entry, -, -, -, hoperand⟩ := h.entry hpackage
    obtain ⟨rest, hrest⟩ := path_text_head (path.parent ++ [bundle.directory, entry.filename])
    intro hempty
    rw [hoperand, payloadPath] at hempty
    rw [hempty] at hrest
    cases hrest
  simp [apt_identity_row (h.inventory.rows package hpackage), hne]

/-- The removal operands that the preflight knows. -/
theorem apt_current_operands_eq (h : Inventory .aptGet audit.packages) :
    aptCurrentOperands audit native =
      audit.packages.map fun package => (aptRemovalSpec package, rowIdentity package) := by
  rw [aptCurrentOperands, ← List.filterMap_eq_map]
  refine List.filterMap_congr fun package hpackage => ?_
  have hrow := h.rows package hpackage
  have hapt : package.manager = some "apt" := hrow.backend
  simp [apt_identity_row hrow, aptRemoveSpec, hrow.installed, hapt]

/-- A key that no other entry has finds its entry. -/
theorem lookup_map_eq {α β : Type} [BEq β] [LawfulBEq β] {γ : Type} {key : α → β} {value : α → γ}
    {items : List α} (hnodup : (items.map key).Nodup) {item : α} (hitem : item ∈ items) :
    (items.map fun item => (key item, value item)).lookup (key item) = some (value item) := by
  induction items with
  | nil => cases hitem
  | cons first items ih =>
      rw [List.map_cons, List.nodup_cons] at hnodup
      rw [List.map_cons, List.lookup_cons]
      rcases List.mem_cons.mp hitem with rfl | hitem
      · simp
      · have hne : (key item == key first) = false := by
          rw [beq_eq_false_iff_ne]
          intro heq
          exact hnodup.1 (heq ▸ List.mem_map_of_mem hitem)
        rw [hne]
        exact ih hnodup.2 hitem

/-- The restore operands stand for the packages that the delta restores. -/
theorem restored_identities_eq (h : RetainedBaseline snapshot .aptGet path bundle) :
    ((deltaPaths snapshot audit).filterMap
        (List.lookup · (aptBaselineOperands snapshot native))) =
      aptIdentities (restorePackages snapshot audit) native := by
  have hsub : ∀ package ∈ restorePackages snapshot audit, package ∈ snapshot.packages :=
    restore_packages_subset h.inventory
  have hnodup : (snapshot.packages.map (snapshotPayloadOperand snapshot)).Nodup := by
    refine (List.Nodup.of_map _ h.inventory.distinct).map_on ?_
    intro package hpackage other hother heq
    exact List.inj_on_of_nodup_map h.inventory.distinct hpackage hother
      (h.operand_injective hpackage hother heq)
  rw [apt_identities_eq fun package hpackage => h.inventory.rows package (hsub package hpackage),
    deltaPaths, List.filterMap_map, ← List.filterMap_eq_map, apt_baseline_operands_eq h]
  exact List.filterMap_congr fun package hpackage => lookup_map_eq hnodup (hsub package hpackage)

/-- The removal operands of an inventory name its rows. -/
theorem removal_operands_nodup (h : Inventory .aptGet audit.packages) :
    (audit.packages.map aptRemovalSpec).Nodup := by
  refine (List.Nodup.of_map _ (h.slots rfl)).map_on ?_
  intro package hpackage other hother heq
  exact List.inj_on_of_nodup_map (h.slots rfl) hpackage hother
    (apt_removal_spec_injective (h.rows package hpackage).apt (h.rows other hother).apt heq)

/-- The removal operands stand for the packages that the delta removes. -/
theorem mem_removed_identities (h : RetainedBaseline snapshot .aptGet path bundle)
    (haudit : Inventory .aptGet audit.packages) {identity : AptIdentity} :
    identity ∈ (deltaRemovals snapshot audit).filterMap
        (List.lookup · (aptCurrentOperands audit native)) ↔
      identity ∈ aptIdentities (addedPackages snapshot audit) native := by
  have hfind : ∀ package ∈ addedPackages snapshot audit,
      (aptCurrentOperands audit native).lookup (aptRemovalSpec package) =
        some (rowIdentity package) := by
    intro package hpackage
    rw [apt_current_operands_eq haudit]
    exact lookup_map_eq (removal_operands_nodup haudit) (mem_added_packages.mp hpackage).1
  rw [apt_identities_eq fun package hpackage =>
    haudit.rows package (mem_added_packages.mp hpackage).1, List.mem_map, List.mem_filterMap]
  constructor
  · rintro ⟨spec, hspec, hlookup⟩
    rw [deltaRemovals, h.backend, mem_package_removal_specs] at hspec
    obtain ⟨package, hpackage, rfl⟩ := hspec
    rw [removalSpec, hfind package hpackage, Option.some.injEq] at hlookup
    exact ⟨package, hpackage, hlookup⟩
  · rintro ⟨package, hpackage, rfl⟩
    refine ⟨aptRemovalSpec package, ?_, hfind package hpackage⟩
    rw [deltaRemovals, h.backend, mem_package_removal_specs]
    exact ⟨package, hpackage, rfl⟩

/-- Nothing is left of identities that another list holds. -/
theorem apt_difference_eq_nil {left right : List AptIdentity} :
    aptDifference left right = [] ↔ ∀ identity ∈ left, identity ∈ right := by
  rw [aptDifference, sorted_eq_nil, List.map_eq_nil_iff, List.filter_eq_nil_iff]
  simp

/-- Nothing deviates exactly when the installs and the removals are the expected ones. -/
theorem apt_rollback_deviation_eq_none {installs removals expectedInstalls
    expectedRemovals : List AptIdentity} :
    aptRollbackDeviation installs removals expectedInstalls expectedRemovals = none ↔
      (∀ identity, identity ∈ installs ↔ identity ∈ expectedInstalls) ∧
        ∀ identity, identity ∈ removals ↔ identity ∈ expectedRemovals := by
  have hboth : ∀ {left right : List AptIdentity},
      (∀ identity, identity ∈ left ↔ identity ∈ right) ↔
        aptDifference left right = [] ∧ aptDifference right left = [] := by
    intro left right
    rw [apt_difference_eq_nil, apt_difference_eq_nil]
    exact ⟨fun hsame => ⟨fun identity => (hsame identity).mp, fun identity => (hsame identity).mpr⟩,
      fun hsame identity => ⟨hsame.1 identity, hsame.2 identity⟩⟩
  rw [hboth, hboth, aptRollbackDeviation]
  constructor
  · intro hnone
    split at hnone
    · cases hnone
    · next hunexpected =>
        split at hnone
        · cases hnone
        · next hmissing =>
            split at hnone
            · cases hnone
            · next hunexpected' =>
                split at hnone
                · cases hnone
                · next hmissing' =>
                    exact ⟨⟨not_not.mp hunexpected, not_not.mp hmissing⟩,
                      not_not.mp hunexpected', not_not.mp hmissing'⟩
  · rintro ⟨⟨hunexpected, hmissing⟩, hunexpected', hmissing'⟩
    simp [hunexpected, hmissing, hunexpected', hmissing']

/-- No `Inst` line deviates exactly when each replaces what its slot holds. -/
theorem apt_replacement_error_eq_none {current : List AptIdentity} {install : AptInstall} :
    aptReplacementError current install = none ↔
      install.old = (currentAtSlot current install.slot).map (·.2.2) := by
  unfold aptReplacementError
  cases currentAtSlot current install.slot with
  | none => cases install.old <;> simp
  | some identity => by_cases hold : install.old = some identity.2.2 <;> simp [hold]

/-- What the preflight accepts of a simulation that purges and lists no broken packages behind an
install. -/
theorem apt_rollback_error_eq_none_iff (h : RetainedBaseline snapshot .aptGet path bundle)
    (haudit : Inventory .aptGet audit.packages) {lines : List SimulationLine}
    (hlines : ∀ line ∈ lines, line.WellFormed)
    (hbroken : ∀ line ∈ lines, line.listsBroken = false)
    (hslots : ((simulatedInstalls lines).map AptInstall.slot).Nodup) {result : CommandResult}
    (hcomplete : outputTruncated result = false)
    (hprinted : result.stdout = printedSimulation lines) :
    aptRollbackTransactionError result snapshot audit (deltaPaths snapshot audit)
        (deltaRemovals snapshot audit) native = none ↔
      ExactInstalls snapshot audit native lines ∧ addedPackages snapshot audit = [] := by
  have hbaseline : ((aptBaselineOperands snapshot native).map Prod.fst).Nodup := by
    rw [apt_baseline_operands_eq h, List.map_map]
    refine (List.Nodup.of_map _ h.inventory.distinct).map_on ?_
    intro package hpackage other hother heq
    exact List.inj_on_of_nodup_map h.inventory.distinct hpackage hother
      (h.operand_injective hpackage hother heq)
  have hcurrent : ((aptCurrentOperands audit native).map Prod.fst).Nodup ∧
      ((aptCurrentOperands audit native).map (aptSlot ·.2)).Nodup := by
    rw [apt_current_operands_eq haudit, List.map_map, List.map_map]
    exact ⟨removal_operands_nodup haudit, row_slots_nodup haudit⟩
  have hknown : (∀ spec ∈ deltaPaths snapshot audit,
        spec ∈ (aptBaselineOperands snapshot native).map Prod.fst) ∧
      ∀ spec ∈ deltaRemovals snapshot audit,
        spec ∈ (aptCurrentOperands audit native).map Prod.fst := by
    rw [apt_baseline_operands_eq h, apt_current_operands_eq haudit, List.map_map, List.map_map]
    constructor
    · intro spec hspec
      obtain ⟨package, hpackage, rfl⟩ := List.mem_map.mp hspec
      exact List.mem_map.mpr ⟨package, restore_packages_subset h.inventory package hpackage, rfl⟩
    · intro spec hspec
      rw [deltaRemovals, h.backend, mem_package_removal_specs] at hspec
      obtain ⟨package, hpackage, rfl⟩ := hspec
      exact List.mem_map.mpr ⟨package, (mem_added_packages.mp hpackage).1, rfl⟩
  have hidentities : ((aptCurrentOperands audit native).map Prod.snd).dedup =
      aptIdentities audit.packages native := by
    rw [apt_current_operands_eq haudit, List.map_map, apt_identities_eq haudit.rows]
    exact (List.Nodup.of_map aptSlot (by rw [List.map_map]; exact row_slots_nodup haudit)).dedup
  -- The parser reads no removal from a simulation that purges, so that the requested removals must
  -- be none.
  have hnone : (∀ identity, identity ∈ ([] : List AptIdentity) ↔
      identity ∈ (deltaRemovals snapshot audit).filterMap
        (List.lookup · (aptCurrentOperands audit native))) ↔ addedPackages snapshot audit = [] := by
    simp only [mem_removed_identities h haudit, List.not_mem_nil, false_iff]
    rw [← List.eq_nil_iff_forall_not_mem, apt_identities_eq fun package hpackage =>
      haudit.rows package (mem_added_packages.mp hpackage).1, List.map_eq_nil_iff]
  rw [aptRollbackTransactionError,
    parse_printed_simulation hlines hbroken hslots hcomplete hprinted]
  simp only []
  rw [if_neg (not_not.mpr hbaseline), if_neg (not_not.mpr hcurrent), if_neg (not_not.mpr hknown),
    hidentities]
  cases hreplaced : (simulatedInstalls lines).findSome?
      (aptReplacementError (aptIdentities audit.packages native)) with
  | some error =>
      -- Some install does not replace what its slot holds.
      refine iff_of_false (by simp) ?_
      rintro ⟨⟨-, hold⟩, -⟩
      have hall : ∀ install ∈ simulatedInstalls lines,
          aptReplacementError (aptIdentities audit.packages native) install = none :=
        fun install hinstall => apt_replacement_error_eq_none.mpr (hold install hinstall)
      rw [List.findSome?_eq_none_iff.mpr hall] at hreplaced
      cases hreplaced
  | none =>
      have hold : ∀ install ∈ simulatedInstalls lines, install.old =
          (currentAtSlot (aptIdentities audit.packages native) install.slot).map (·.2.2) :=
        fun install hinstall => apt_replacement_error_eq_none.mp
          (List.findSome?_eq_none_iff.mp hreplaced install hinstall)
      show aptRollbackDeviation _ [] _ _ = none ↔ _
      rw [apt_rollback_deviation_eq_none, hnone, restored_identities_eq h]
      exact and_congr_left fun _ => ⟨fun hsame => ⟨hsame, hold⟩, fun hexact => hexact.1⟩

/-- A simulation that lists broken packages behind an install is refused. -/
theorem apt_rollback_broken_refused {lines : List SimulationLine}
    (hlines : ∀ line ∈ lines, line.WellFormed) (hbroken : ∃ line ∈ lines, line.listsBroken = true)
    {result : CommandResult} (hcomplete : outputTruncated result = false)
    (hprinted : result.stdout = printedSimulation lines) (restoreSpecs removeSpecs : List String) :
    aptRollbackTransactionError result snapshot audit restoreSpecs removeSpecs native ≠ none := by
  rw [aptRollbackTransactionError, parse_broken_simulation hlines hbroken hcomplete hprinted]
  exact Option.some_ne_none _

/-! ## Recognition of removals -/

/-- The transcript is read, and every package that the simulation removes is among the removals
that the checks get from it. -/
def RecognizesRemovals (result : CommandResult) (lines : List SimulationLine) : Prop :=
  ∃ installs removals, parseAptTransaction result = some (installs, removals) ∧
    ∀ identity ∈ simulatedRemovals lines, ∃ removal ∈ removals,
      removal.name = identity.1 ∧ removal.version = identity.2.2

/-- The removals of a simulation are recognized exactly when there are none, and no broken packages
are listed behind an install. -/
theorem recognizes_removals_iff {lines : List SimulationLine}
    (hlines : ∀ line ∈ lines, line.WellFormed)
    (hslots : ((simulatedInstalls lines).map AptInstall.slot).Nodup) {result : CommandResult}
    (hcomplete : outputTruncated result = false)
    (hprinted : result.stdout = printedSimulation lines) :
    RecognizesRemovals result lines ↔
      simulatedRemovals lines = [] ∧ ∀ line ∈ lines, line.listsBroken = false := by
  by_cases hbroken : ∀ line ∈ lines, line.listsBroken = false
  · have hparsed := parse_printed_simulation hlines hbroken hslots hcomplete hprinted
    rw [and_iff_left hbroken]
    constructor
    · rintro ⟨installs, removals, hread, hall⟩
      rw [hparsed, Option.some.injEq, Prod.mk.injEq] at hread
      rw [List.eq_nil_iff_forall_not_mem]
      intro identity hidentity
      obtain ⟨removal, hremoval, -⟩ := hall identity hidentity
      rw [← hread.2] at hremoval
      cases hremoval
    · intro hnone
      exact ⟨_, _, hparsed, by simp [hnone]⟩
  · refine iff_of_false ?_ fun h => hbroken h.2
    rintro ⟨installs, removals, hread, -⟩
    have hunread := parse_broken_simulation hlines (by simpa using hbroken) hcomplete hprinted
    rw [hread] at hunread
    cases hunread

/-- The removals of a simulation are the added packages or not, by whether there are any. -/
theorem exact_removals_iff (haudit : Inventory .aptGet audit.packages)
    {lines : List SimulationLine} (h : simulatedRemovals lines = []) :
    ExactRemovals snapshot audit native lines ↔ addedPackages snapshot audit = [] := by
  have hadded : aptIdentities (addedPackages snapshot audit) native = [] ↔
      addedPackages snapshot audit = [] := by
    rw [apt_identities_eq fun package hpackage => haudit.rows package
      (mem_added_packages.mp hpackage).1, List.map_eq_nil_iff]
  rw [ExactRemovals, h, ← hadded, List.eq_nil_iff_forall_not_mem]
  simp

/-- Where nothing is added, exact removals are none. -/
theorem exact_removals_of_none_added {lines : List SimulationLine}
    (h : addedPackages snapshot audit = []) :
    ExactRemovals snapshot audit native lines ↔ simulatedRemovals lines = [] := by
  rw [ExactRemovals, h, List.eq_nil_iff_forall_not_mem]
  simp [aptIdentities]

/-- The rollback check decides exactness and the shared parser recognizes the removals exactly
for the simulations that remove nothing and list no broken packages behind an install. The rollback
check alone goes wrong on a simulation with the requested installs whose removals are the requested
ones, or, where no removal is requested and no broken packages are listed, that removes a package.
The two checks that share the parser answer what they would answer without the removals. -/
theorem apt_rollback_decides_iff (h : RetainedBaseline snapshot .aptGet path bundle)
    (haudit : Inventory .aptGet audit.packages) {lines : List SimulationLine}
    (hlines : ∀ line ∈ lines, line.WellFormed)
    (hslots : ((simulatedInstalls lines).map AptInstall.slot).Nodup) {result : CommandResult}
    (hcomplete : outputTruncated result = false)
    (hprinted : result.stdout = printedSimulation lines) :
    (∃ commands, rollbackPackageCommands snapshot (some audit) = .ok commands ∧
      let decides := aptRollbackTransactionError result snapshot audit
          (commands.flatMap rollbackRestoreSpecs) (commands.flatMap rollbackRemoveSpecs) native =
            none ↔
        ExactInstalls snapshot audit native lines ∧ ExactRemovals snapshot audit native lines
      (decides ∧ RecognizesRemovals result lines ↔
        simulatedRemovals lines = [] ∧ ∀ line ∈ lines, line.listsBroken = false) ∧
      (decides ↔ ¬ (ExactInstalls snapshot audit native lines ∧
        if (∀ line ∈ lines, line.listsBroken = false) ∧ addedPackages snapshot audit = [] then
          simulatedRemovals lines ≠ []
        else ExactRemovals snapshot audit native lines))) ∧
    ∀ other : CommandResult, outputTruncated other = false →
      other.stdout = printedSimulation (lines.filter fun line => !line.removes) →
      (∀ desiredPin requireInstall expectedRemovalNames,
        aptPolicyTransactionError other audit desiredPin requireInstall expectedRemovalNames
            native =
          aptPolicyTransactionError result audit desiredPin requireInstall expectedRemovalNames
            native) ∧
      (result.returncode = some 0 → other.returncode = some 0 →
        ∀ forwardPackages removeSpecs,
          localAptTransactionError other forwardPackages removeSpecs audit native =
            localAptTransactionError result forwardPackages removeSpecs audit native) := by
  obtain ⟨commands, hcommands, hrestores, hremoves, -⟩ := derived_operands h haudit
  have hrecognizes := recognizes_removals_iff hlines hslots hcomplete hprinted
  have hnothing := @exact_removals_iff snapshot audit native haudit lines
  have hunadded := @exact_removals_of_none_added snapshot audit native lines
  refine ⟨⟨commands, hcommands, ?_⟩, ?_⟩
  · simp only [hrestores, hremoves, hrecognizes]
    -- A list of broken packages makes the whole transcript malformed, whatever it removes.
    by_cases hbroken : ∀ line ∈ lines, line.listsBroken = false
    · have haccepts := @apt_rollback_error_eq_none_iff snapshot audit path bundle native h haudit
        lines hlines hbroken hslots result hcomplete hprinted
      have hclear : (∀ line ∈ lines, line.listsBroken = false) = True := eq_true hbroken
      simp only [haccepts, hclear, and_true, true_and]
      by_cases hnone : addedPackages snapshot audit = []
      · have hsame := hunadded hnone
        simp only [hnone, if_true, and_true]
        by_cases hinstalls : ExactInstalls snapshot audit native lines <;> simp [hinstalls, hsame]
      · have hdifferent : simulatedRemovals lines = [] →
            ¬ ExactRemovals snapshot audit native lines :=
          fun hempty hexact => hnone ((hnothing hempty).mp hexact)
        simp only [hnone, and_false, if_false]
        by_cases hinstalls : ExactInstalls snapshot audit native lines
        · simp [hinstalls]
          exact hdifferent
        · simp [hinstalls]
    · have hrefused := @apt_rollback_broken_refused snapshot audit native lines hlines
        (by simpa using hbroken) result hcomplete hprinted (deltaPaths snapshot audit)
        (deltaRemovals snapshot audit)
      simp [hrefused, hbroken]
  · intro other hother hkept
    have hparsed := parse_without_removals hlines hcomplete hother hprinted hkept
    refine ⟨fun desiredPin requireInstall expectedRemovalNames => ?_, ?_⟩
    · rw [aptPolicyTransactionError, aptPolicyTransactionError, hparsed]
    · intro hresult hreturned forwardPackages removeSpecs
      simp only [localAptTransactionError, hresult, hreturned, hparsed, ne_eq, not_true_eq_false,
        if_false]

/-! ### One package too many -/

/-- An installed package of the driver utilities. -/
def utilityPackage (name : String) : PackageInfo where
  name := name
  version := some "580.65-1"
  manager := some "apt"
  installed := true
  architecture := some "amd64"

/-- The retained file of the baseline's package. -/
def utilityPayload : PackagePayload where
  name := "nvidia-modprobe"
  architecture := "amd64"
  epoch := none
  version := "580.65-1"
  format := "deb"
  filename := String.ofList (List.replicate 64 'a') ++ ".deb"
  sha256 := String.ofList (List.replicate 64 'a')
  sizeBytes := 1
  verification := "apt-repository"
  roles := ["baseline"]
  signerIds := []

/-- The bundle with the retained file of the baseline. -/
def utilityBundle : PackagePayloadBundle where
  directory := "rollback.json.payloads"
  packages := [utilityPayload]
  totalSizeBytes := 1

/-- A snapshot whose baseline is one utility package. -/
def utilitySnapshot : RollbackSnapshot where
  path := some develPath.text
  packages := [utilityPackage "nvidia-modprobe"]
  kernel := "6.8.0-40-generic"
  moduleVersion := none
  commands := []
  packageManager := some .aptGet
  packagePayloads := some utilityBundle

/-- A host that has gained another utility package. -/
def utilityAudit : HostAudit where
  osId := some "ubuntu"
  osVersion := some "24.04"
  packageManager := some .aptGet
  kernel := { running := "6.8.0-40-generic", headersInstalled := true }
  module := { loaded := false }
  runtime := { dockerInstalled := false, nvidiaContainerRuntimeInstalled := false }
  packages := [utilityPackage "nvidia-modprobe", utilityPackage "nvidia-settings"]
  nvidiaSmi := { command := ["nvidia-smi"], returncode := some 0 }
  nvml := { command := ["python3"], returncode := some 0 }
  migMode := none

/-- The requested outcome: the added package is purged, nothing is installed. -/
def utilitySimulation : List SimulationLine :=
  [.other "Building dependency tree...".toList,
    .purg ("nvidia-settings", "amd64", "580.65-1") false []]

/-- The result of a simulation that prints some lines. -/
def printedResult (lines : List SimulationLine) : CommandResult where
  command := ["apt-get", "--simulate", "install", "--purge"]
  returncode := some 0
  stdout := printedSimulation lines

/-- An installed utility package is a row of the inventory. -/
theorem utility_row {name : String} (hinteresting : interestingPackage name = true)
    (hname : ':' ∉ name.toList) : InventoryRow .aptGet (utilityPackage name) where
  installed := rfl
  backend := rfl
  interesting := hinteresting
  fields := by
    rw [if_pos rfl]
    exact
      { name := hname
        architecture := ⟨"amd64", rfl, by decide, by decide⟩
        version := show truthy (some "580.65-1") = true by decide
        epoch := rfl }

/-- The audit of the host is a complete inventory. -/
theorem utility_audited : Inventory .aptGet utilityAudit.packages where
  rows := by
    intro package hpackage
    rcases List.mem_cons.mp hpackage with rfl | hpackage
    · exact utility_row (by decide) (by decide)
    · rw [List.mem_singleton.mp hpackage]
      exact utility_row (by decide) (by decide)
  distinct := by decide
  slots := fun _ => by decide

/-- The baseline is a complete inventory. -/
theorem utility_inventory : Inventory .aptGet utilitySnapshot.packages where
  rows := by
    intro package hpackage
    rw [List.mem_singleton.mp hpackage]
    exact utility_row (by decide) (by decide)
  distinct := by decide
  slots := fun _ => by decide

/-- The retained file is valid for the baseline. -/
theorem utility_payloads : ValidPayloads develPath utilityBundle utilitySnapshot.packages
    .aptGet where
  complete := by decide
  count := by decide
  entries := by decide
  directory := by decide
  distinct := by decide
  identities := by decide
  oneToOne := by decide
  filenames := by decide
  each := by decide
  total := by decide

/-- The snapshot retains its baseline. -/
theorem utility_retained : RetainedBaseline utilitySnapshot .aptGet develPath utilityBundle where
  located := rfl
  backend := rfl
  retained := rfl
  payloads := utility_payloads
  inventory := utility_inventory

/-- The lines of the simulation are lines that APT prints. -/
theorem utility_simulation_well_formed : ∀ line ∈ utilitySimulation, line.WellFormed := by
  intro line hline
  rcases List.mem_cons.mp hline with rfl | hline
  · show (∀ c ∈ "Building dependency tree...".toList, Text.isLineBreak c = false) ∧ _ ∧ _
    exact ⟨Text.forall_of_all (by decide), by decide, by decide⟩
  · rw [List.mem_singleton.mp hline]
    show _ ∧ _ ∧ Text.IsWord "580.65-1".toList ∧ _
    exact ⟨by decide, by decide, by simp [Text.IsWord]; decide, by simp⟩

/-- The host has gained exactly one package. -/
theorem utility_added :
    addedPackages utilitySnapshot utilityAudit = [utilityPackage "nvidia-settings"] := by
  decide

/-- The simulation does exactly what the rollback asks for. -/
theorem utility_simulation_exact :
    ExactInstalls utilitySnapshot utilityAudit "amd64" utilitySimulation ∧
      ExactRemovals utilitySnapshot utilityAudit "amd64" utilitySimulation := by
  have hrestored : restorePackages utilitySnapshot utilityAudit = [] := by decide
  constructor
  · rw [ExactInstalls, hrestored]
    exact ⟨fun identity => Iff.rfl, fun install hinstall => absurd hinstall List.not_mem_nil⟩
  · rw [ExactRemovals, utility_added]
    exact fun identity => Iff.rfl

/-- Neither half of the recognition holds for the requested outcome. -/
theorem apt_rollback_decides_iff_utility :
    ∃ commands, rollbackPackageCommands utilitySnapshot (some utilityAudit) = .ok commands ∧
      ¬ (aptRollbackTransactionError (printedResult utilitySimulation) utilitySnapshot utilityAudit
            (commands.flatMap rollbackRestoreSpecs) (commands.flatMap rollbackRemoveSpecs)
            "amd64" = none ↔
        ExactInstalls utilitySnapshot utilityAudit "amd64" utilitySimulation ∧
          ExactRemovals utilitySnapshot utilityAudit "amd64" utilitySimulation) := by
  obtain ⟨⟨commands, hcommands, -, hdecides⟩, -⟩ := @apt_rollback_decides_iff utilitySnapshot
    utilityAudit develPath utilityBundle "amd64" utility_retained utility_audited
    utilitySimulation utility_simulation_well_formed (by decide) (printedResult utilitySimulation)
    (by decide) rfl
  refine ⟨commands, hcommands, fun hdecided =>
    hdecides.mp hdecided ⟨utility_simulation_exact.1, ?_⟩⟩
  rw [if_neg (by rw [utility_added]; exact fun hnone => List.cons_ne_nil _ _ hnone.2)]
  exact utility_simulation_exact.2

/-- The rollback check refuses the requested outcome, and the parser that it shares with the
other checks sees none of its removals. -/
theorem purged_package_refused :
    ExactInstalls utilitySnapshot utilityAudit "amd64" utilitySimulation ∧
      ExactRemovals utilitySnapshot utilityAudit "amd64" utilitySimulation ∧
      aptRollbackTransactionError (printedResult utilitySimulation) utilitySnapshot utilityAudit
          (deltaPaths utilitySnapshot utilityAudit) (deltaRemovals utilitySnapshot utilityAudit)
          "amd64" ≠ none ∧
      parseAptTransaction (printedResult utilitySimulation) = some ([], []) := by
  refine ⟨utility_simulation_exact.1, utility_simulation_exact.2, fun haccepted => ?_, ?_⟩
  · have hadded := ((apt_rollback_error_eq_none_iff utility_retained utility_audited
      utility_simulation_well_formed (by decide) (by decide) (by decide) rfl).mp haccepted).2
    rw [utility_added] at hadded
    exact List.cons_ne_nil _ _ hadded
  · exact parse_printed_simulation utility_simulation_well_formed (by decide) (by decide)
      (by decide) rfl

end NvidiaConverge
