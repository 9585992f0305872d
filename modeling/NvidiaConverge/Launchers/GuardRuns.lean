import NvidiaConverge.Launchers.Guard
import NvidiaConverge.Launchers.PrintedSystemd

/-!
# What a guard starts

The guard starts a service only while it is pending, and pending services are among those that were
active at the initial gate: `guard_starts_only_its_own`, over every sequence of calls. Ownership
is kept method by method; what a restore observed of its targets is a second walk through it.
-/

namespace NvidiaConverge

open Program (Ensures Runs Outcome ending)

/-! ## Recorded runs of a guard -/

/-- An operation of a guard with the answer that it got, as one event of a trace. -/
abbrev GuardEvent := Program.Event GuardOp GuardOp.Reply

/-- Whatever systemd prints and the commands and files answer; the runner may raise everywhere. The
state is what was issued so far. -/
def guardReply (trace : List GuardEvent) (operation : GuardOp) (reply : operation.Reply)
    (following : List GuardEvent) : Prop :=
  (∀ answer, reply = some answer → operation.op.Answers answer) ∧
    following = trace ++ [⟨operation, reply⟩]

/-- The unit was observed active, with the identity of its process. -/
def ObservedActive (unit : Launcher) (trace : List GuardEvent) : Prop :=
  ∃ (guard : Guard) (host : TrustHost) (shown : CommandResult)
    (observation : TrustedServiceObservation unit) (identity : TrustedGpuServiceIdentity unit),
    (observeTrustedService host unit shown).2 = .ok observation ∧ observation.active = true ∧
      observation.identity = some identity ∧
      ⟨⟨.observeTrusted unit, guard⟩, some ((observeTrustedService host unit shown).1, .ok true)⟩ ∈
        trace

theorem ObservedActive.append {unit : Launcher} {trace : List GuardEvent}
    (h : ObservedActive unit trace) (more : List GuardEvent) :
    ObservedActive unit (trace ++ more) := by
  obtain ⟨guard, host, shown, observation, identity, hobserved, hactive, hidentity, hmem⟩ := h
  exact ⟨guard, host, shown, observation, identity, hobserved, hactive, hidentity,
    List.mem_append_left _ hmem⟩

/-- A start of the unit comes right behind a validation of that start, which accepted. -/
def StartValidated (unit : Launcher) (before : List GuardEvent) : Prop :=
  ∃ (earlier : List GuardEvent) (guard : Guard) (validation : TrustReply Unit),
    before = earlier ++ [⟨⟨.validateStart unit, guard⟩, some validation⟩] ∧
      accepts validation.verdict = true

/-- What holds of the guard at every operation: it restores only what was active at the gate, and
starts only what it is about to restore. -/
structure GuardAllows (before : List GuardEvent) (operation : GuardOp) : Prop where
  pending : ∀ unit ∈ operation.guard.pendingRestore, unit ∈ operation.guard.originallyActive
  original : ∀ unit ∈ operation.guard.originallyActive, ObservedActive unit before
  start : ∀ unit, operation.op = .systemctl .start unit →
    unit ∈ operation.guard.pendingRestore ∧ StartValidated unit before

/-- Every operation of the trace was allowed at the point where it was made. -/
def GuardSafe (trace : List GuardEvent) : Prop :=
  Program.Allowed GuardAllows trace

/-! ## What the methods keep -/

section

-- What is known of an originally active unit behind a trace.
variable (origin : Launcher → List GuardEvent → Prop)

/-- The dictionaries of a guard behind a trace. -/
structure GuardKept (guard : Guard) (trace : List GuardEvent) : Prop where
  nodup : guard.pendingRestore.Nodup
  pending : ∀ unit ∈ guard.pendingRestore, unit ∈ guard.originallyActive
  original : ∀ unit ∈ guard.originallyActive, origin unit trace

/-- How a method ends; `left` is the guard that it leaves, with what is known of it. -/
def guardEnds {α : Type} (left : α → Guard) (known : Guard → Prop) :
    Outcome Guard α → List GuardEvent → Prop :=
  ending GuardSafe (fun guard trace => GuardSafe trace ∧ GuardKept origin guard trace)
    fun value trace => GuardSafe trace ∧ GuardKept origin (left value) trace ∧ known (left value)

end

/-- What is known of an origin: it holds on, and the unit was observed active. -/
structure GuardOrigin (origin : Launcher → List GuardEvent → Prop) : Prop where
  append : ∀ {unit trace}, origin unit trace → ∀ event, origin unit (trace ++ [event])
  observed : ∀ {unit trace}, origin unit trace → ObservedActive unit trace

variable {origin : Launcher → List GuardEvent → Prop} {guard : Guard} {trace : List GuardEvent}
  {unit : Launcher}

theorem GuardKept.append (horigin : GuardOrigin origin) (h : GuardKept origin guard trace)
    (event : GuardEvent) : GuardKept origin guard (trace ++ [event]) :=
  { h with original := fun unit hmem => horigin.append (h.original unit hmem) event }

/-- A guard that owes fewer units keeps what is kept. -/
theorem GuardKept.shrink {other : Guard} (h : GuardKept origin guard trace)
    (hpending : other.pendingRestore.Sublist guard.pendingRestore)
    (horiginal : other.originallyActive = guard.originallyActive) :
    GuardKept origin other trace where
  nodup := h.nodup.sublist hpending
  pending := by
    rw [horiginal]
    exact fun unit hmem => h.pending unit (hpending.subset hmem)
  original := by
    rw [horiginal]
    exact h.original

/-- A guard with other results and errors keeps what is kept. -/
theorem GuardKept.same {other : Guard} (h : GuardKept origin guard trace)
    (hpending : other.pendingRestore = guard.pendingRestore)
    (horiginal : other.originallyActive = guard.originallyActive) :
    GuardKept origin other trace :=
  h.shrink (by rw [hpending]) horiginal

/-- A unit is assigned exactly when it is the new one or was assigned before. -/
theorem mem_assign_unit {other : Launcher} {units : List Launcher} :
    other ∈ assignUnit unit units ↔ other = unit ∨ other ∈ units := by
  unfold assignUnit
  split
  · next hmem =>
      constructor
      · exact .inr
      · rintro (rfl | hother)
        · exact hmem
        · exact hother
  · rw [List.mem_append, List.mem_singleton, or_comm]

theorem nodup_assign_unit {units : List Launcher} (h : units.Nodup) :
    (assignUnit unit units).Nodup := by
  unfold assignUnit
  split
  · exact h
  · next hmem => exact List.nodup_append.mpr ⟨h, List.nodup_singleton _, by
      rintro other hother _ hsingle rfl
      exact hmem (List.mem_singleton.mp hsingle ▸ hother)⟩

/-- The rule of one operation of a guard's method, which must be allowed. -/
theorem ensures_guard_ask {α : Type} {op : HostOp} {post : Outcome Guard α → List GuardEvent → Prop}
    {rest : op.Reply → GuardProgram α} (horigin : GuardOrigin origin) (hsafe : GuardSafe trace)
    (hkept : GuardKept origin guard trace)
    (hstart : ∀ unit, op = .systemctl .start unit →
      unit ∈ guard.pendingRestore ∧ StartValidated unit trace)
    (hcut : ∀ final, GuardSafe final → post .interrupted final)
    (hraised : ∀ final, GuardSafe final → GuardKept origin guard final →
      post (.raised guard) final)
    (hrest : ∀ answer, op.Answers answer → GuardSafe (trace ++ [⟨⟨op, guard⟩, some answer⟩]) →
      GuardKept origin guard (trace ++ [⟨⟨op, guard⟩, some answer⟩]) →
      Ensures guardReply post (rest answer) (trace ++ [⟨⟨op, guard⟩, some answer⟩])) :
    Ensures guardReply post (guard.ask op >>= rest) trace := by
  have hallowed : GuardAllows trace ⟨op, guard⟩ :=
    { pending := hkept.pending
      original := fun unit hmem => horigin.observed (hkept.original unit hmem)
      start := hstart }
  refine Program.ensures_bind.mpr (Program.ensures_bind.mpr
    ((Program.ensures_perform (GuardOp.mk op guard)).mpr ⟨hcut _ hsafe, ?_⟩))
  rintro reply _ ⟨hanswers, rfl⟩
  have hafter := Program.Allowed.snoc hsafe hallowed reply
  refine ⟨hcut _ hafter, ?_⟩
  cases reply with
  | none =>
      exact Program.ensures_raise.mpr ⟨hcut _ hafter, hraised _ hafter (hkept.append horigin _)⟩
  | some answer =>
      have hgoes := hrest answer (hanswers answer rfl) hafter (hkept.append horigin _)
      exact Program.ensures_pure.mpr ⟨hcut _ hafter, hgoes⟩

/-- The rest of a method behind its operation: whatever is cut off or raised, its ending holds. -/
theorem ensures_guard_observe {α : Type} {left : α → Guard} {known : Guard → Prop}
    {rest : Guard × Except String Bool → GuardProgram α} (horigin : GuardOrigin origin)
    (hsafe : GuardSafe trace) (hkept : GuardKept origin guard trace)
    (hrest : ∀ results observed final, GuardSafe final →
      GuardKept origin (guard.withResults results) final →
      (observed = .ok true → ObservedActive unit final) →
      Ensures guardReply (guardEnds origin left known) (rest (guard.withResults results, observed))
        final) :
    Ensures guardReply (guardEnds origin left known) (guard.observe unit >>= rest) trace := by
  refine Program.ensures_bind.mpr (ensures_guard_ask horigin hsafe hkept (fun _ hop => by cases hop)
    (fun _ hcut => hcut) (fun _ hafter hleft => ⟨hafter, hleft⟩) ?_)
  rintro ⟨results, observed⟩ hanswers hafter hleft
  refine Program.ensures_pure.mpr
    ⟨hafter, hrest results observed _ hafter (hleft.same rfl rfl) ?_⟩
  rintro rfl
  obtain ⟨host, shown, hreply⟩ := hanswers
  obtain ⟨rfl, hobserved⟩ := Prod.mk.inj hreply
  obtain ⟨observation, hok, hactive⟩ := Result.map_eq_ok.mp hobserved.symm
  obtain ⟨identity, hidentity⟩ := observe_trusted_active hok hactive
  exact ⟨guard, host, shown, observation, identity, hok, hactive, hidentity,
    List.mem_append_right _ List.mem_cons_self⟩

/-- The rule of a command of a guard's method that starts nothing. -/
theorem ensures_guard_command {α : Type} {left : α → Guard} {known : Guard → Prop}
    {verb : SystemctlVerb}
    {rest : Guard × CommandResult → GuardProgram α} (horigin : GuardOrigin origin)
    (hsafe : GuardSafe trace) (hkept : GuardKept origin guard trace)
    (hstart : verb = .start → unit ∈ guard.pendingRestore ∧ StartValidated unit trace)
    (hrest : ∀ result final, GuardSafe final → GuardKept origin (guard.withResults [result]) final →
      Ensures guardReply (guardEnds origin left known) (rest (guard.withResults [result], result))
        final) :
    Ensures guardReply (guardEnds origin left known)
      (guard.systemctl verb unit >>= rest) trace := by
  refine Program.ensures_bind.mpr (ensures_guard_ask horigin hsafe hkept ?_
    (fun _ hcut => hcut) (fun _ hafter hleft => ⟨hafter, hleft⟩) ?_)
  · intro other hop
    obtain ⟨rfl, rfl⟩ := HostOp.systemctl.inj hop
    exact hstart rfl
  · intro result _ hafter hleft
    exact Program.ensures_pure.mpr ⟨hafter, hrest result _ hafter (hleft.same rfl rfl)⟩

/-- A method that returns leaves the trace safe and the guard as it is kept. -/
theorem ensures_guard_pure {known : Guard → Prop} (hsafe : GuardSafe trace)
    (hkept : GuardKept origin guard trace) (hknown : known guard) :
    Ensures guardReply (guardEnds origin id known) (pure guard : GuardProgram Guard) trace :=
  Program.ensures_pure.mpr ⟨hsafe, hsafe, hkept, hknown⟩

/-! ### Restoring -/

/-- The other pending units of one guard are pending in another. -/
def StillPending (guard : Guard) (unit : Launcher) (other : Guard) : Prop :=
  ∀ pending ∈ guard.pendingRestore, pending ≠ unit → pending ∈ other.pendingRestore

/-- The end of a target of `restore` keeps the guard, by what was observed. -/
theorem ensures_conclude_restore {before : Guard} (hsafe : GuardSafe trace)
    (hkept : GuardKept origin guard trace) (hpending : guard.pendingRestore = before.pendingRestore)
    (observed : Except String Bool) :
    Ensures guardReply (guardEnds origin id (StillPending before unit))
      (pure (guard.concludeRestore unit observed) : GuardProgram Guard) trace := by
  have hleft : GuardKept origin (guard.concludeRestore unit observed) trace ∧
      StillPending before unit (guard.concludeRestore unit observed) := by
    unfold StillPending
    rw [← hpending]
    rcases observed with error | (_ | _)
    · exact ⟨hkept.same rfl rfl, fun _ hmem _ => hmem⟩
    · exact ⟨hkept.same rfl rfl, fun _ hmem _ => hmem⟩
    · exact ⟨hkept.shrink List.filter_sublist rfl,
        fun _ hmem hne => List.mem_filter.mpr ⟨hmem, decide_eq_true hne⟩⟩
  exact ensures_guard_pure hsafe hleft.1 hleft.2

theorem ensures_restore_unit (horigin : GuardOrigin origin) (hsafe : GuardSafe trace)
    (hkept : GuardKept origin guard trace) (hmem : unit ∈ guard.pendingRestore) :
    Ensures guardReply (guardEnds origin id (StillPending guard unit)) (guard.restoreUnit unit)
      trace := by
  refine ensures_guard_observe horigin hsafe hkept
    fun results observed observing hsafe hkept _ => ?_
  rcases observed with error | (_ | _)
  · exact ensures_conclude_restore hsafe hkept rfl _
  · refine ensures_guard_ask horigin hsafe hkept (fun _ hop => by cases hop) (fun _ hcut => hcut)
      (fun _ hafter hleft => ⟨hafter, hleft⟩) fun validation _ hsafe hkept => ?_
    have hsame : GuardKept origin ((guard.withResults results).withResults validation.results)
        (observing ++ [⟨⟨.validateStart unit, guard.withResults results⟩, some validation⟩]) :=
      hkept.same rfl rfl
    cases hverdict : validation.verdict with
    | error error => exact ensures_guard_pure hsafe (hsame.same rfl rfl) fun _ hmem _ => hmem
    | ok value =>
        refine ensures_guard_command horigin hsafe hsame
          (fun _ => ⟨hmem, observing, _, validation, rfl, by rw [hverdict]; rfl⟩)
          fun started final hsafe hkept => ?_
        show Ensures guardReply _ (if started.succeeded = true then _ else _) final
        split
        · refine ensures_guard_observe horigin hsafe hkept
            fun more observed last hsafe hkept _ => ?_
          exact ensures_conclude_restore hsafe hkept rfl observed
        · exact ensures_guard_pure hsafe (hkept.same rfl rfl) fun _ hmem _ => hmem
  · exact ensures_conclude_restore hsafe hkept rfl _

theorem ensures_restore_units (horigin : GuardOrigin origin) (units : List Launcher)
    (hnodup : units.Nodup) (hsafe : GuardSafe trace) (hkept : GuardKept origin guard trace)
    (hmem : ∀ unit ∈ units, unit ∈ guard.pendingRestore) :
    Ensures guardReply (guardEnds origin id fun _ => True) (Guard.restoreUnits units guard)
      trace := by
  induction units generalizing guard trace with
  | nil => exact ensures_guard_pure hsafe hkept trivial
  | cons unit units ih =>
      obtain ⟨hnot, hnodup⟩ := List.nodup_cons.mp hnodup
      refine (ensures_restore_unit horigin hsafe hkept (hmem unit List.mem_cons_self)).bind
        (fun _ hcut => hcut) (fun _ _ hraised => hraised) ?_
      rintro after final ⟨hsafe, hkept, hstill⟩
      refine ih hnodup hsafe hkept fun other hother => ?_
      refine hstill other (hmem other (List.mem_cons_of_mem _ hother)) ?_
      rintro rfl
      exact hnot hother

theorem ensures_restore (horigin : GuardOrigin origin) (hsafe : GuardSafe trace)
    (hkept : GuardKept origin guard trace) (units : Option (List Launcher)) :
    Ensures guardReply (guardEnds origin Prod.fst fun _ => True) (guard.restore units) trace := by
  refine (ensures_restore_units horigin (guard.targets units)
    ((List.nodup_reverse.mpr hkept.nodup).filter _) hsafe hkept ?_).bind (fun _ hcut => hcut)
    (fun _ _ hraised => hraised) ?_
  · intro unit hmem
    exact List.mem_reverse.mp (List.mem_filter.mp hmem).1
  · rintro after final ⟨hsafe, hkept, -⟩
    exact Program.ensures_pure.mpr ⟨hsafe, hsafe, hkept, trivial⟩

/-! ### Quiescing again -/

/-- The end of a unit of `requiesce` keeps the guard, by what was observed. -/
theorem ensures_conclude_requiesce (hsafe : GuardSafe trace) (hkept : GuardKept origin guard trace)
    (observed : Except String Bool) :
    Ensures guardReply (guardEnds origin id fun _ => True)
      (pure (guard.concludeRequiesce unit observed) : GuardProgram Guard) trace := by
  refine ensures_guard_pure hsafe ?_ trivial
  rcases observed with error | (_ | _)
  · exact hkept.same rfl rfl
  · show GuardKept origin (ite _ _ _) trace
    split
    · next horiginal =>
        refine ⟨nodup_assign_unit hkept.nodup, fun other hmem => ?_, hkept.original⟩
        rcases mem_assign_unit.mp hmem with rfl | hpending
        · exact horiginal
        · exact hkept.pending other hpending
    · exact hkept
  · exact hkept.same rfl rfl

theorem ensures_requiesce_unit (horigin : GuardOrigin origin) (hsafe : GuardSafe trace)
    (hkept : GuardKept origin guard trace) (unit : Launcher) :
    Ensures guardReply (guardEnds origin id fun _ => True) (guard.requiesceUnit unit) trace := by
  refine ensures_guard_observe horigin hsafe hkept
    fun results observed observing hsafe hkept _ => ?_
  rcases observed with error | (_ | _)
  · exact ensures_conclude_requiesce hsafe hkept _
  · exact ensures_conclude_requiesce hsafe hkept _
  · refine ensures_guard_command horigin hsafe hkept (fun hverb => by cases hverb)
      fun stopped final hsafe hkept => ?_
    show Ensures guardReply _ (if stopped.succeeded = true then _ else _) final
    split
    · refine ensures_guard_observe horigin hsafe hkept fun more observed last hsafe hkept _ => ?_
      exact ensures_conclude_requiesce hsafe hkept observed
    · exact ensures_guard_pure hsafe (hkept.same rfl rfl) trivial

theorem ensures_requiesce_units (horigin : GuardOrigin origin) (units : List Launcher)
    (hsafe : GuardSafe trace) (hkept : GuardKept origin guard trace) :
    Ensures guardReply (guardEnds origin id fun _ => True) (Guard.requiesceUnits units guard)
      trace := by
  induction units generalizing guard trace with
  | nil => exact ensures_guard_pure hsafe hkept trivial
  | cons unit units ih =>
      refine (ensures_requiesce_unit horigin hsafe hkept unit).bind (fun _ hcut => hcut)
        (fun _ _ hraised => hraised) ?_
      rintro after final ⟨hsafe, hkept, -⟩
      exact ih hsafe hkept

theorem ensures_requiesce (horigin : GuardOrigin origin) (hsafe : GuardSafe trace)
    (hkept : GuardKept origin guard trace) :
    Ensures guardReply (guardEnds origin Prod.fst fun _ => True) guard.requiesce trace := by
  have hcleared : GuardKept origin { guard with requiesceErrors := [] } trace :=
    hkept.same rfl rfl
  refine (ensures_requiesce_units horigin guard.specs hsafe hcleared).bind (fun _ hcut => hcut)
    (fun _ _ hraised => hraised) ?_
  rintro after final ⟨hsafe, hkept, -⟩
  exact Program.ensures_pure.mpr ⟨hsafe, hsafe, hkept, trivial⟩

/-! ### The initial gate -/

/-- To have been observed active is an origin that later events do not take away. -/
theorem observed_origin : GuardOrigin ObservedActive where
  append := fun h event => h.append [event]
  observed := fun h => h

theorem GuardKept.adopt (h : GuardKept origin guard trace) (hunit : origin unit trace) :
    GuardKept origin (guard.adopt unit) trace where
  nodup := nodup_assign_unit h.nodup
  pending := by
    intro other hmem
    rcases mem_assign_unit.mp hmem with rfl | hpending
    · exact mem_assign_unit.mpr (.inl rfl)
    · exact mem_assign_unit.mpr (.inr (h.pending other hpending))
  original := by
    intro other hmem
    rcases mem_assign_unit.mp hmem with rfl | horiginal
    · exact hunit
    · exact h.original other horiginal

theorem ensures_quiesce_failed (horigin : GuardOrigin origin) (hsafe : GuardSafe trace)
    (hkept : GuardKept origin guard trace) (restoreOnFailure : Bool) (error : String) :
    Ensures guardReply (guardEnds origin id fun _ => True)
      (Guard.quiesceFailed restoreOnFailure guard error) trace := by
  unfold Guard.quiesceFailed
  cases restoreOnFailure with
  | false => exact ensures_guard_pure hsafe (hkept.same rfl rfl) trivial
  | true =>
      have hfailed : GuardKept origin { guard with error := some error } trace :=
        hkept.same rfl rfl
      refine (ensures_restore horigin hsafe hfailed none).bind (fun _ hcut => hcut)
        (fun _ _ hraised => hraised) ?_
      rintro ⟨after, restored⟩ final ⟨hsafe, hkept, -⟩
      exact ensures_guard_pure hsafe hkept trivial

theorem ensures_quiesce_units (restoreOnFailure : Bool) (units : List Launcher)
    (hsafe : GuardSafe trace) (hkept : GuardKept ObservedActive guard trace) :
    Ensures guardReply (guardEnds ObservedActive id fun _ => True)
      (Guard.quiesceUnits restoreOnFailure units guard) trace := by
  induction units generalizing guard trace with
  | nil => exact ensures_guard_pure hsafe hkept trivial
  | cons unit units ih =>
      refine ensures_guard_observe observed_origin hsafe hkept
        fun results observed observing hsafe hkept hactive => ?_
      rcases observed with error | (_ | _)
      · exact ensures_quiesce_failed observed_origin hsafe hkept restoreOnFailure error
      · exact ih hsafe hkept
      · refine ensures_guard_command observed_origin hsafe (hkept.adopt (hactive rfl))
          (fun hverb => by cases hverb) fun stopped final hsafe hkept => ?_
        show Ensures guardReply _ (if stopped.succeeded = true then _ else _) final
        split
        · refine ensures_guard_observe observed_origin hsafe hkept
            fun more observed last hsafe hkept _ => ?_
          rcases observed with error | (_ | _)
          · exact ensures_quiesce_failed observed_origin hsafe hkept restoreOnFailure error
          · exact ih hsafe hkept
          · exact ensures_quiesce_failed observed_origin hsafe hkept restoreOnFailure _
        · exact ensures_quiesce_failed observed_origin hsafe hkept restoreOnFailure _

/-- `quiesce` adopts only units that it observed active, whatever is answered. -/
theorem ensures_quiesce (systemctl : Bool) (specs : List Launcher) (restoreOnFailure : Bool) :
    Ensures guardReply (guardEnds ObservedActive id fun _ => True)
      (Guard.quiesce systemctl specs restoreOnFailure) [] := by
  have hnew : ∀ error, GuardKept ObservedActive { specs, error } [] := fun error =>
    { nodup := List.nodup_nil
      pending := fun _ hmem => absurd hmem List.not_mem_nil
      original := fun _ hmem => absurd hmem List.not_mem_nil }
  unfold Guard.quiesce
  split
  · exact ensures_guard_pure Program.allowed_nil (hnew _) trivial
  · refine (ensures_quiesce_units restoreOnFailure specs Program.allowed_nil (hnew none)).handle
      (fun _ hcut => hcut) ?_ fun _ _ hreturned => hreturned
    rintro guard trace ⟨hsafe, hkept⟩
    cases restoreOnFailure with
    | false => exact Program.ensures_raise.mpr ⟨hsafe, hsafe, hkept⟩
    | true =>
        refine (ensures_restore observed_origin hsafe hkept none).bind (fun _ hcut => hcut)
          (fun _ _ hraised => hraised) ?_
        rintro ⟨after, restored⟩ final ⟨hsafe, hkept, -⟩
        exact Program.ensures_raise.mpr ⟨hsafe, hsafe, hkept⟩

/-! ## What a restore observes -/

/-- The unit was observed, and it was active. -/
def isActive : Except String Bool → Bool
  | .ok active => active
  | .error _ => false

/-- What an event observed of a unit's activity. The validation of a start observes the unit too,
and accepts only an inactive one. -/
def observationOf (unit : Launcher) : GuardEvent → Option Bool
  | ⟨⟨.observeTrusted other, _⟩, some reply⟩ =>
    if other = unit then some (isActive reply.2) else none
  | ⟨⟨.validateStart other, _⟩, some _⟩ => if other = unit then some false else none
  | _ => none

/-- What the last observation of a unit in a trace said, if there is one. -/
def lastObserved (unit : Launcher) (trace : List GuardEvent) : Option Bool :=
  (trace.filterMap (observationOf unit)).getLast?

/-- A part of a run that is only about some units. -/
def IssuedAbout (units : List Launcher) (trace final : List GuardEvent) : Prop :=
  ∃ issued, final = trace ++ issued ∧
    ∀ event ∈ issued, ∃ unit ∈ units, event.op.op.concerns unit

theorem IssuedAbout.refl (units : List Launcher) (trace : List GuardEvent) :
    IssuedAbout units trace trace :=
  ⟨[], (List.append_nil trace).symm, fun _ hmem => absurd hmem List.not_mem_nil⟩

theorem IssuedAbout.snoc {units : List Launcher} {final : List GuardEvent}
    (h : IssuedAbout units trace final) (event : GuardEvent) (hmem : unit ∈ units)
    (hevent : event.op.op.concerns unit) : IssuedAbout units trace (final ++ [event]) := by
  obtain ⟨issued, rfl, hissued⟩ := h
  refine ⟨issued ++ [event], List.append_assoc .., fun other hother => ?_⟩
  rcases List.mem_append.mp hother with hother | hother
  · exact hissued other hother
  · obtain rfl := List.mem_singleton.mp hother
    exact ⟨unit, hmem, hevent⟩

theorem IssuedAbout.trans {units more : List Launcher} {middle final : List GuardEvent}
    (h : IssuedAbout units trace middle) (h' : IssuedAbout more middle final)
    {all : List Launcher} (hunits : ∀ unit ∈ units, unit ∈ all)
    (hmore : ∀ unit ∈ more, unit ∈ all) :
    IssuedAbout all trace final := by
  obtain ⟨issued, rfl, hissued⟩ := h
  obtain ⟨later, rfl, hlater⟩ := h'
  refine ⟨issued ++ later, List.append_assoc .., fun event hevent => ?_⟩
  rcases List.mem_append.mp hevent with hevent | hevent
  · obtain ⟨unit, hmem, hconcerns⟩ := hissued event hevent
    exact ⟨unit, hunits unit hmem, hconcerns⟩
  · obtain ⟨unit, hmem, hconcerns⟩ := hlater event hevent
    exact ⟨unit, hmore unit hmem, hconcerns⟩

/-- An event about another unit observes nothing of this one. -/
theorem observation_of_other {event : GuardEvent} {other : Launcher}
    (h : event.op.op.concerns other) (hne : other ≠ unit) : observationOf unit event = none := by
  obtain ⟨⟨op, guard⟩, reply⟩ := event
  cases op <;> cases reply <;> cases h <;> simp [observationOf, hne]

theorem IssuedAbout.last_observed {units : List Launcher} {final : List GuardEvent}
    (h : IssuedAbout units trace final) (hunit : unit ∉ units) :
    lastObserved unit final = lastObserved unit trace := by
  obtain ⟨issued, rfl, hissued⟩ := h
  have hnone : issued.filterMap (observationOf unit) = [] := by
    refine List.filterMap_eq_nil_iff.mpr fun event hmem => ?_
    obtain ⟨other, hother, hconcerns⟩ := hissued event hmem
    refine observation_of_other hconcerns ?_
    rintro rfl
    exact hunit hother
  unfold lastObserved
  rw [List.filterMap_append, hnone, List.append_nil]

theorem last_observed_snoc (results : List CommandResult) (observed : Except String Bool) :
    lastObserved unit (trace ++ [⟨⟨.observeTrusted unit, guard⟩, some (results, observed)⟩]) =
      some (isActive observed) := by
  have hlast : [(⟨⟨.observeTrusted unit, guard⟩, some (results, observed)⟩ : GuardEvent)].filterMap
      (observationOf unit) = [isActive observed] := by
    simp [observationOf]
  unfold lastObserved
  rw [List.filterMap_append, hlast, List.getLast?_append]
  rfl

/-- A method's part that ends in this way when it is neither cut off nor raises. -/
def returns {α : Type} (returned : α → List GuardEvent → Prop) :
    Outcome Guard α → List GuardEvent → Prop :=
  ending (fun _ => True) (fun _ _ => True) returned

theorem ensures_returns_ask {α : Type} {op : HostOp} {returned : α → List GuardEvent → Prop}
    {rest : op.Reply → GuardProgram α}
    (h : ∀ answer, Ensures guardReply (returns returned) (rest answer)
      (trace ++ [⟨⟨op, guard⟩, some answer⟩])) :
    Ensures guardReply (returns returned) (guard.ask op >>= rest) trace := by
  refine Program.ensures_bind.mpr (Program.ensures_bind.mpr
    ((Program.ensures_perform (GuardOp.mk op guard)).mpr ⟨trivial, ?_⟩))
  rintro reply _ ⟨-, rfl⟩
  refine ⟨trivial, ?_⟩
  cases reply with
  | none => exact Program.ensures_raise.mpr ⟨trivial, trivial⟩
  | some answer => exact Program.ensures_pure.mpr ⟨trivial, h answer⟩

theorem ensures_returns_observe {α : Type} {returned : α → List GuardEvent → Prop}
    {rest : Guard × Except String Bool → GuardProgram α}
    (h : ∀ results observed, Ensures guardReply (returns returned)
      (rest (guard.withResults results, observed))
      (trace ++ [⟨⟨.observeTrusted unit, guard⟩, some (results, observed)⟩])) :
    Ensures guardReply (returns returned) (guard.observe unit >>= rest) trace := by
  refine Program.ensures_bind.mpr (ensures_returns_ask fun answer => ?_)
  exact Program.ensures_pure.mpr ⟨trivial, h answer.1 answer.2⟩

/-- What `restore` makes of one target: only this target is touched, and without a restore error it
was observed active at last. -/
def RestoredOne (guard : Guard) (unit : Launcher) (trace : List GuardEvent) (after : Guard)
    (final : List GuardEvent) : Prop :=
  IssuedAbout [unit] trace final ∧
    (after.restoreErrors = [] → guard.restoreErrors = [] ∧ lastObserved unit final = some true)

/-- The end of a target, right behind its observation. -/
theorem ensures_returns_conclude {before observing : Guard} {start : List GuardEvent}
    {results : List CommandResult} {observed : Except String Bool}
    (herrors : guard.restoreErrors = before.restoreErrors)
    (hissued : IssuedAbout [unit] start trace) :
    Ensures guardReply (returns (RestoredOne before unit start))
      (pure (guard.concludeRestore unit observed) : GuardProgram Guard)
      (trace ++ [⟨⟨.observeTrusted unit, observing⟩, some (results, observed)⟩]) := by
  refine Program.ensures_pure.mpr
    ⟨trivial, hissued.snoc _ (List.mem_singleton_self unit) rfl, fun hnone => ?_⟩
  rw [last_observed_snoc]
  rcases observed with error | (_ | _)
  · simp [Guard.concludeRestore, Guard.withRestoreError] at hnone
  · simp [Guard.concludeRestore, Guard.withRestoreError] at hnone
  · exact ⟨herrors ▸ hnone, rfl⟩

/-- A target that ends with an error is one of which nothing is promised. -/
theorem ensures_returns_failed {before : Guard} {start : List GuardEvent}
    (hissued : IssuedAbout [unit] start trace) (error : String) :
    Ensures guardReply (returns (RestoredOne before unit start))
      (pure (guard.withRestoreError error) : GuardProgram Guard) trace := by
  refine Program.ensures_pure.mpr ⟨trivial, hissued, fun hnone => ?_⟩
  simp [Guard.withRestoreError] at hnone

theorem ensures_returns_restore_unit (guard : Guard) (unit : Launcher) (trace : List GuardEvent) :
    Ensures guardReply (returns (RestoredOne guard unit trace)) (guard.restoreUnit unit) trace := by
  have hself := List.mem_singleton_self unit
  have hstart := IssuedAbout.refl [unit] trace
  refine ensures_returns_observe fun results observed => ?_
  rcases observed with error | (_ | _)
  · exact ensures_returns_conclude rfl hstart
  · refine ensures_returns_ask fun validation => ?_
    have hobserved := hstart.snoc ⟨⟨.observeTrusted unit, guard⟩, some (results, .ok false)⟩
      hself rfl
    have hvalidated := hobserved.snoc
      ⟨⟨.validateStart unit, guard.withResults results⟩, some validation⟩ hself rfl
    cases hverdict : validation.verdict with
    | error error => exact ensures_returns_failed hvalidated error
    | ok value =>
        refine Program.ensures_bind.mpr (ensures_returns_ask fun started => ?_)
        have hstarted := hvalidated.snoc ⟨⟨.systemctl .start unit,
          (guard.withResults results).withResults validation.results⟩, some started⟩ hself rfl
        refine Program.ensures_pure.mpr ⟨trivial, ?_⟩
        show Ensures guardReply _ (if started.succeeded = true then _ else _) _
        split
        · refine ensures_returns_observe fun more observed => ?_
          exact ensures_returns_conclude rfl hstarted
        · exact ensures_returns_failed hstarted _
  · exact ensures_returns_conclude rfl hstart

/-- The targets of a `restore` that adds no error were all last observed active. -/
theorem ensures_returns_restore_units (units : List Launcher) (hnodup : units.Nodup)
    (guard : Guard) (trace : List GuardEvent) :
    Ensures guardReply (returns fun after final => IssuedAbout units trace final ∧
        (after.restoreErrors = [] → guard.restoreErrors = [] ∧
          ∀ unit ∈ units, lastObserved unit final = some true))
      (Guard.restoreUnits units guard) trace := by
  induction units generalizing guard trace with
  | nil =>
      refine Program.ensures_pure.mpr ⟨trivial, IssuedAbout.refl [] trace, fun hnone => ?_⟩
      exact ⟨hnone, fun _ hmem => absurd hmem List.not_mem_nil⟩
  | cons unit units ih =>
      obtain ⟨hnot, hnodup⟩ := List.nodup_cons.mp hnodup
      refine (ensures_returns_restore_unit guard unit trace).bind (fun _ hcut => hcut)
        (fun _ _ hraised => hraised) ?_
      rintro after middle ⟨hfirst, hobserved⟩
      refine (ih hnodup after middle).mono fun outcome final h => ?_
      cases outcome with
      | interrupted => trivial
      | raised left => trivial
      | returned last =>
          obtain ⟨hrest, hothers⟩ := h
          refine ⟨hfirst.trans hrest (by simp) fun _ => List.mem_cons_of_mem _, fun hnone => ?_⟩
          obtain ⟨hafter, hlater⟩ := hothers hnone
          obtain ⟨hguard, hunit⟩ := hobserved hafter
          refine ⟨hguard, List.forall_mem_cons.mpr ⟨?_, hlater⟩⟩
          -- the later targets are other units, so that the first one's observation stays the last
          rw [hrest.last_observed hnot]
          exact hunit

/-- A restore that returns true observed every target active at last. -/
theorem ensures_returns_restore (hkept : GuardKept origin guard trace)
    (units : Option (List Launcher)) :
    Ensures guardReply (returns fun answer final => answer.2 = true →
        ∀ unit ∈ guard.targets units, lastObserved unit final = some true)
      (guard.restore units) trace := by
  refine (ensures_returns_restore_units (guard.targets units)
    ((List.nodup_reverse.mpr hkept.nodup).filter _) guard trace).bind (fun _ hcut => hcut)
    (fun _ _ hraised => hraised) ?_
  rintro after final ⟨-, hobserved⟩
  refine Program.ensures_pure.mpr ⟨trivial, fun hrestored => ?_⟩
  exact (hobserved (of_decide_eq_true hrestored).1).2

/-! ## Every sequence of calls -/

/-- The guard that a call leaves, also when the runner raised in it. -/
def guardLeft {α : Type} (left : α → Guard) : Outcome Guard α → Option Guard
  | .interrupted => none
  | .raised guard => some guard
  | .returned value => some (left value)

/-- The calls on one guard: what was issued by the initial gate, the units relinquished since, what
was issued up to now, and the guard. -/
inductive GuardHistory (gate : List GuardEvent) :
    List Launcher → List GuardEvent → Guard → Prop where
  | gate {systemctl restoreOnFailure : Bool} {specs : List Launcher}
      {outcome : Outcome Guard Guard} {guard : Guard}
      (hruns : Runs guardReply (Guard.quiesce systemctl specs restoreOnFailure) [] outcome gate)
      (hleft : guardLeft id outcome = some guard) : GuardHistory gate [] gate guard
  | requiesce {relinquished : List Launcher} {trace final : List GuardEvent} {guard after : Guard}
      {outcome : Outcome Guard (Guard × Bool)} (h : GuardHistory gate relinquished trace guard)
      (hruns : Runs guardReply guard.requiesce trace outcome final)
      (hleft : guardLeft Prod.fst outcome = some after) :
      GuardHistory gate relinquished final after
  | restore {relinquished : List Launcher} {trace final : List GuardEvent} {guard after : Guard}
      {outcome : Outcome Guard (Guard × Bool)} {units : Option (List Launcher)}
      (h : GuardHistory gate relinquished trace guard)
      (hruns : Runs guardReply (guard.restore units) trace outcome final)
      (hleft : guardLeft Prod.fst outcome = some after) :
      GuardHistory gate relinquished final after
  | relinquish {relinquished units : List Launcher} {trace : List GuardEvent} {guard : Guard}
      (h : GuardHistory gate relinquished trace guard) :
      GuardHistory gate (relinquished ++ units) trace (guard.relinquish units)

/-- What is known of an originally active unit: the gate observed it active, and nobody took it
over. -/
def OwnedSince (gate : List GuardEvent) (relinquished : List Launcher) (unit : Launcher)
    (trace : List GuardEvent) : Prop :=
  ObservedActive unit gate ∧ unit ∉ relinquished ∧ ObservedActive unit trace

/-- To be owned since the gate is an origin that later events do not take away. -/
theorem owned_since_origin (gate : List GuardEvent) (relinquished : List Launcher) :
    GuardOrigin (OwnedSince gate relinquished) where
  append := fun h event => ⟨h.1, h.2.1, h.2.2.append [event]⟩
  observed := fun h => h.2.2

/-- What a call keeps, whether it returns or raises. -/
theorem guard_ends_left {α : Type} {left : α → Guard} {outcome : Outcome Guard α}
    (h : guardEnds origin left (fun _ => True) outcome trace)
    (hleft : guardLeft left outcome = some guard) :
    GuardSafe trace ∧ GuardKept origin guard trace := by
  cases outcome with
  | interrupted => cases hleft
  | raised other =>
      cases hleft
      exact h
  | returned value =>
      cases hleft
      exact ⟨h.1, h.2.1⟩

theorem guard_history_kept {gate : List GuardEvent} {relinquished : List Launcher}
    (h : GuardHistory gate relinquished trace guard) :
    GuardSafe trace ∧ GuardKept (OwnedSince gate relinquished) guard trace := by
  induction h with
  | gate hruns hleft =>
      obtain ⟨hsafe, hkept⟩ := guard_ends_left ((ensures_quiesce _ _ _).runs hruns) hleft
      exact ⟨hsafe, { hkept with
        original := fun unit hmem =>
          ⟨hkept.original unit hmem, List.not_mem_nil, hkept.original unit hmem⟩ }⟩
  | requiesce h hruns hleft ih =>
      exact guard_ends_left
        ((ensures_requiesce (owned_since_origin _ _) ih.1 ih.2).runs hruns) hleft
  | restore h hruns hleft ih =>
      exact guard_ends_left
        ((ensures_restore (owned_since_origin _ _) ih.1 ih.2 _).runs hruns) hleft
  | @relinquish relinquished units trace guard h ih =>
      obtain ⟨hsafe, hkept⟩ := ih
      refine ⟨hsafe, hkept.nodup.filter _, fun unit hmem => ?_, fun unit hmem => ?_⟩
      · obtain ⟨hpending, hothers⟩ := List.mem_filter.mp hmem
        exact List.mem_filter.mpr ⟨hkept.pending unit hpending, hothers⟩
      · obtain ⟨horiginal, hothers⟩ := List.mem_filter.mp hmem
        obtain ⟨hgate, hkeptOut, hobserved⟩ := hkept.original unit horiginal
        refine ⟨hgate, fun hrelinquished => ?_, hobserved⟩
        have hnot : unit ∉ units := by simpa using hothers
        exact (List.mem_append.mp hrelinquished).elim hkeptOut hnot

/-- Over every sequence of calls, whatever is observed and answered: what is pending was originally
active; what was originally active was observed so at the gate and is not relinquished; a start is
issued only for a pending unit behind an accepted validation of the start; and a restore that
returns true observed all of its targets active at last. -/
theorem guard_starts_only_its_own {gate : List GuardEvent} {relinquished : List Launcher}
    {trace : List GuardEvent} {guard : Guard}
    (h : GuardHistory gate relinquished trace guard) :
    (∀ unit ∈ guard.pendingRestore, unit ∈ guard.originallyActive) ∧
    (∀ unit ∈ guard.originallyActive, ObservedActive unit gate ∧ unit ∉ relinquished) ∧
    (∀ before event after, trace = before ++ event :: after → GuardAllows before event.op) ∧
    ∀ units after final,
      Runs guardReply (guard.restore units) trace (.returned (after, true)) final →
      ∀ unit ∈ guard.targets units, lastObserved unit final = some true := by
  obtain ⟨hsafe, hkept⟩ := guard_history_kept h
  refine ⟨hkept.pending, fun unit hmem => ?_, hsafe, fun units after final hruns => ?_⟩
  · obtain ⟨hgate, hkeptOut, -⟩ := hkept.original unit hmem
    exact ⟨hgate, hkeptOut⟩
  · exact (ensures_returns_restore hkept units).runs hruns rfl

/-! ## A guard of one service -/

/-- The persistence daemon, running or stopped. -/
def persistenced (active : Bool) : PrintedUnit :=
  { runningUnit with active }

theorem persistenced_parsed (active : Bool) :
    parseTrustedProperties serviceProperties
        ((persistenced active).shownFull .nvidiaPersistenced).stdout =
      some (serviceProperties.map fun name =>
        (name, (persistenced active).property .nvidiaPersistenced name)) :=
  shown_full_parsed .nvidiaPersistenced (persistenced active)

/-- What the trusted observer makes of the daemon's unit. -/
def persistencedObservation (active : Bool) : TrustedServiceObservation .nvidiaPersistenced where
  active := active
  mainPid := if active then 1 else 0
  hasFragment := true
  loadState := "loaded"
  activeState := if active then "active" else "inactive"
  subState := if active then "running" else "dead"
  properties := serviceProperties.map fun name =>
    (name, (persistenced active).property .nvidiaPersistenced name)
  identity := if active then some (SystemdUnit.process .nvidiaPersistenced) else none

theorem persistenced_observed (active : Bool) :
    (observeTrustedService (persistenced active).trustHost .nvidiaPersistenced
      ((persistenced active).shownFull .nvidiaPersistenced)).2 =
        .ok (persistencedObservation active) := by
  have hvalue : ∀ name ∈ serviceProperties, Properties.value (serviceProperties.map fun name =>
      (name, (persistenced active).property .nvidiaPersistenced name)) name =
        (persistenced active).property .nvidiaPersistenced name := fun _ => value_printed
  unfold observeTrustedService
  rw [persistenced_parsed]
  simp only [hvalue _ (show "Id" ∈ serviceProperties by decide),
    hvalue _ (show "MainPID" ∈ serviceProperties by decide),
    hvalue _ (show "ActiveState" ∈ serviceProperties by decide),
    hvalue _ (show "SubState" ∈ serviceProperties by decide),
    hvalue _ (show "LoadState" ∈ serviceProperties by decide),
    hvalue _ (show "FragmentPath" ∈ serviceProperties by decide)]
  cases active <;> rfl

/-- The accepted validation of the daemon's start. -/
def persistencedStart : TrustReply Unit :=
  trustReply ["validate-trusted-gpu-service-start", nvidiaPersistencedUnit]
    ((observeTrustedService (persistenced false).trustHost .nvidiaPersistenced
      ((persistenced false).shownFull .nvidiaPersistenced)).1 ++
        [bindingResult .nvidiaPersistenced 0 (.ok () : Except String Unit)]) (.ok ())

theorem persistenced_start :
    validateTrustedGpuServiceStart (persistenced false).trustHost .nvidiaPersistenced
      ((persistenced false).shownFull .nvidiaPersistenced) = persistencedStart := by
  unfold validateTrustedGpuServiceStart persistencedStart
  rw [if_neg (by decide)]
  have hobserved := persistenced_observed false
  revert hobserved
  cases observeTrustedService (persistenced false).trustHost .nvidiaPersistenced
    ((persistenced false).shownFull .nvidiaPersistenced) with
  | mk results observed =>
      rintro rfl
      rfl

/-- How the host of the daemon answers a guard, and whether the daemon is active behind that. -/
def persistencedAnswers (active : Bool) : (operation : GuardOp) → operation.Reply × Bool
  | ⟨.observeTrusted .nvidiaPersistenced, _⟩ =>
      (some ((observeTrustedService (persistenced active).trustHost .nvidiaPersistenced
        ((persistenced active).shownFull .nvidiaPersistenced)).1, .ok active), active)
  | ⟨.validateStart .nvidiaPersistenced, _⟩ =>
      (if active then none else some persistencedStart, active)
  | ⟨.systemctl verb unit, _⟩ =>
      (some { command := systemctlCommand verb unit, returncode := some 0 },
        verb = .start || (active && verb ≠ .stop))
  | _ => (none, active)

/-- Every answer is one of the source's functions. -/
theorem persistenced_answers (trace : List GuardEvent) (active : Bool) (operation : GuardOp) :
    guardReply trace operation (persistencedAnswers active operation).1
      (trace ++ [⟨operation, (persistencedAnswers active operation).1⟩]) := by
  refine ⟨fun answer hanswer => ?_, rfl⟩
  obtain ⟨op, guard⟩ := operation
  cases op with
  | observeTrusted unit =>
      cases unit with
      | nvidiaPersistenced =>
          obtain rfl := Option.some.inj hanswer
          exact ⟨_, _, by rw [persistenced_observed]; rfl⟩
      | dockerSocket | dockerService | fabricManager => cases hanswer
  | validateStart unit =>
      cases unit with
      | nvidiaPersistenced =>
          cases active with
          | true => cases hanswer
          | false =>
              obtain rfl := Option.some.inj hanswer
              exact ⟨_, _, persistenced_start.symm⟩
      | dockerSocket | dockerService | fabricManager => cases hanswer
  | systemctl verb unit => trivial
  | record unit result => trivial
  | audit => trivial
  | probe base => trivial
  | _ => cases hanswer

/-- The guard behind its gate, over the running daemon. -/
def persistencedGuard : Guard :=
  match (Program.run persistencedAnswers
    (Guard.quiesce true [.nvidiaPersistenced] true) true).1 with
  | .ok guard => guard
  | .error guard => guard

/-- What its gate issues, and what its restore issues behind the gate. -/
def persistencedGate : List GuardEvent :=
  Program.issued persistencedAnswers (Guard.quiesce true [.nvidiaPersistenced] true) true

def persistencedRestore : List GuardEvent :=
  Program.issued persistencedAnswers (persistencedGuard.restore none) false

theorem persistenced_gated :
    GuardHistory persistencedGate [] persistencedGate persistencedGuard := by
  have hruns : Runs guardReply (Guard.quiesce true [.nvidiaPersistenced] true) [] _
      persistencedGate := Program.runs_issued persistencedAnswers persistenced_answers
    (Guard.quiesce true [.nvidiaPersistenced] true) true []
  refine .gate hruns ?_
  unfold persistencedGuard
  cases (Program.run persistencedAnswers
    (Guard.quiesce true [.nvidiaPersistenced] true) true).1 <;> rfl

/-- The daemon is pending behind the gate, and observed active behind its restore. -/
theorem guard_starts_only_its_own_persistenced :
    persistencedGuard.pendingRestore = [.nvidiaPersistenced] ∧
      (∀ unit ∈ persistencedGuard.pendingRestore, ObservedActive unit persistencedGate) ∧
      ∀ unit ∈ persistencedGuard.targets none,
        lastObserved unit (persistencedGate ++ persistencedRestore) = some true := by
  obtain ⟨hpending, horiginal, -, hrestored⟩ := guard_starts_only_its_own persistenced_gated
  refine ⟨by decide +kernel, fun unit hmem => (horiginal unit (hpending unit hmem)).1, ?_⟩
  have hruns : Runs guardReply (persistencedGuard.restore none) persistencedGate _
      (persistencedGate ++ persistencedRestore) := Program.runs_issued persistencedAnswers
    persistenced_answers (persistencedGuard.restore none) false persistencedGate
  have hreturned : ∃ after, (Program.run persistencedAnswers (persistencedGuard.restore none)
      false).1 = .ok (after, true) := ⟨_, rfl⟩
  obtain ⟨after, hafter⟩ := hreturned
  rw [hafter] at hruns
  exact hrestored none after _ hruns

end NvidiaConverge
