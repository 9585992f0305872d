import NvidiaConverge.Launchers.Quarantine
import NvidiaConverge.Launchers.World
import NvidiaConverge.Library.Result
import NvidiaConverge.Planning.Convergence

/-!
# The runs of one quarantine

Everything that the quarantine of one launcher may do, whatever systemd, the trust validations and
the commands answer: `quarantine_sound`. It is about the recorded run, so that an operation is
known together with everything that came before it.
-/

namespace NvidiaConverge

open Program (Ensures Runs Outcome anyReply ending)

/-! ## Recorded events -/

/-- An operation of the launcher code with its answer. -/
abbrev HostEvent := Program.Event HostOp HostOp.Reply

/-- The results that an event adds to those of its caller. -/
def HostEvent.results : HostEvent → List CommandResult
  | ⟨.systemctl _ _, reply⟩ => [reply]
  | ⟨.observe _, reply⟩ => [reply.result]
  | ⟨.validateSocket _, reply⟩ => reply.results
  | ⟨.validateService _ _, reply⟩ => reply.results
  | ⟨.validateStart _, reply⟩ => reply.results
  | ⟨.validateActive _ _, reply⟩ => reply.results
  | ⟨.revalidateSocket _, reply⟩ => reply.results
  | ⟨.revalidateProcess _ _, reply⟩ => reply.results
  | ⟨.observeTrusted _, reply⟩ => reply.1
  | ⟨.record _ result, _⟩ => [result]
  | ⟨.audit, _⟩ => []
  | ⟨.probe _, reply⟩ => [reply.1]

/-- The results that the events of a run recorded, in their order. -/
def recordedResults (trace : List HostEvent) : List CommandResult :=
  trace.flatMap HostEvent.results

/-- The results of two parts of a run are those of the first and then those of the second. -/
@[simp] theorem recorded_results_append {trace more : List HostEvent} :
    recordedResults (trace ++ more) = recordedResults trace ++ recordedResults more :=
  List.flatMap_append

@[simp] theorem recorded_results_single {event : HostEvent} :
    recordedResults [event] = event.results :=
  List.flatMap_singleton _ _

variable {unit : Launcher} {trace : List HostEvent}

/-- The validation before the mask accepted with this identity: a process for a service, the unit
inputs for the socket, and nothing for a unit that is not active. -/
def PreMaskIdentity.Validated : PreMaskIdentity unit → HostEvent → Prop
  | .none, _ => True
  | .socket identity _, event =>
      ∃ reply : TrustReply _, event = ⟨.validateSocket true, reply⟩ ∧
        reply.verdict = .ok (some identity)
  | .process identity, event =>
      unit ≠ .dockerSocket ∧ ∃ reply : TrustReply _,
        event = ⟨.validateActive unit Option.none, reply⟩ ∧
        reply.verdict = .ok identity

/-- The validation behind the mask accepted this identity again. -/
def PreMaskIdentity.Revalidated : PreMaskIdentity unit → HostEvent → Prop
  | .none, _ => False
  | .socket identity _, event =>
      ∃ reply : TrustReply Unit, event = ⟨.revalidateSocket identity, reply⟩ ∧
        accepts reply.verdict = true
  | .process identity, event =>
      ∃ reply : TrustReply Unit, event = ⟨.revalidateProcess unit identity, reply⟩ ∧
        accepts reply.verdict = true

/-- What precedes the activity transition: the unit was validated, then masked with success, and
then observed as masked and still active. -/
def MaskedActive (identity : PreMaskIdentity unit) (trace : List HostEvent) : Prop :=
  ∃ (before shown : Observation) (trust : HostEvent) (masked : CommandResult),
    trace = [⟨.observe unit, before⟩, trust, ⟨.systemctl .mask unit, masked⟩,
        ⟨.observe unit, shown⟩] ∧
      identity.Validated trust ∧ masked.succeeded = true ∧
      shown.result.returncode = some 0 ∧ shown.state.unitFileState = some .masked ∧
      shown.state.active = some true

/-- What precedes a stop: the unit is masked and active, and the identity from before the mask was
validated again. -/
def StopAuthorized (unit : Launcher) (trace : List HostEvent) : Prop :=
  ∃ (identity : PreMaskIdentity unit) (before : List HostEvent) (again : HostEvent),
    trace = before ++ [again] ∧ MaskedActive identity before ∧ identity.Revalidated again

/-- The last event is an observation of the unit as inactive and masked. -/
def EndsQuarantined (unit : Launcher) (trace : List HostEvent) : Prop :=
  ∃ (before : List HostEvent) (observation : Observation),
    trace = before ++ [⟨.observe unit, observation⟩] ∧ observation.quarantined = true

/-- The quarantine of a unit issues an operation only behind what authorizes it. -/
def Quarantines (unit : Launcher) (before : List HostEvent) (op : HostOp) : Prop :=
  op.quarantines unit ∧ (op = .systemctl .stop unit → StopAuthorized unit before)

/-- What holds wherever the run may be cut off. -/
def QuarantineSafe (unit : Launcher) : List HostEvent → Prop :=
  Program.Allowed (Quarantines unit)

/-! ## The parts -/

variable {ε : Type} {earlier : List CommandResult}

/-- How a part ends behind the results of earlier parts: the results are those that were recorded,
and if none of the part's own failed, the unit is quarantined. -/
def concludes (unit : Launcher) (earlier : List CommandResult) :
    Outcome ε (List CommandResult) → List HostEvent → Prop :=
  ending (QuarantineSafe unit) (fun _ _ => False) fun results trace =>
    QuarantineSafe unit trace ∧ earlier ++ results = recordedResults trace ∧
      (commandsSucceeded results = true → EndsQuarantined unit trace)

/-- One operation of the quarantine that is no stop. -/
theorem ensures_quarantine_ask {α : Type} {post : Outcome ε α → List HostEvent → Prop}
    {op : HostOp} {rest : op.Reply → HostProgram ε α} (h : QuarantineSafe unit trace)
    (hop : op.quarantines unit) (hstop : op ≠ .systemctl .stop unit)
    (hcut : ∀ final, QuarantineSafe unit final → post .interrupted final)
    (hrest : ∀ reply, QuarantineSafe unit (trace ++ [⟨op, reply⟩]) →
      Ensures anyReply post (rest reply) (trace ++ [⟨op, reply⟩])) :
    Ensures anyReply post (ask op >>= rest) trace :=
  Program.ensures_any_reply (hcut _ h) fun reply =>
    hrest reply (h.snoc ⟨hop, fun heq => absurd heq hstop⟩ reply)

/-- A part that concludes the quarantine may follow other recorded results. -/
theorem ensures_concludes_behind {part : HostProgram ε (List CommandResult)}
    (results : List CommandResult)
    (h : Ensures anyReply (concludes unit (earlier ++ results)) part trace) :
    Ensures anyReply (concludes unit earlier) (do
      let rest ← part
      pure (results ++ rest)) trace := by
  refine h.bind (fun _ hsafe => hsafe) (fun _ _ hraised => hraised) ?_
  rintro rest final ⟨hsafe, hrecorded, hends⟩
  refine Program.ensures_pure.mpr ⟨hsafe, hsafe, ?_, fun hall => hends ?_⟩
  · rw [← List.append_assoc, hrecorded]
  · rw [commands_succeeded_append, Bool.and_eq_true] at hall
    exact hall.2

/-- A part that returns results among which one failed. -/
theorem ensures_concludes_failed {results : List CommandResult} (hsafe : QuarantineSafe unit trace)
    (hrecorded : earlier ++ results = recordedResults trace)
    (hfailed : commandsSucceeded results = false) :
    Ensures anyReply (concludes unit earlier) (pure results : HostProgram ε _) trace :=
  Program.ensures_pure.mpr ⟨hsafe, hsafe, hrecorded, fun hall => by simp [hfailed] at hall⟩

theorem ensures_concludes_refused (hsafe : QuarantineSafe unit trace)
    (hrecorded : earlier = recordedResults trace) (reason : String) :
    Ensures anyReply (concludes unit earlier) (refuseQuarantine unit reason : HostProgram ε _)
      trace := by
  refine ensures_quarantine_ask hsafe rfl (by simp) (fun _ hcut => hcut) fun _ hafter => ?_
  refine ensures_concludes_failed hafter ?_ rfl
  rw [recorded_results_append, ← hrecorded, recorded_results_single]
  rfl

/-- The last check, right behind the observation that it is about. -/
theorem ensures_concludes_confirmed {observation : Observation}
    (hsafe : QuarantineSafe unit (trace ++ [⟨.observe unit, observation⟩]))
    (hrecorded : earlier = recordedResults trace) :
    Ensures anyReply (concludes unit earlier) (confirmQuarantine unit observation : HostProgram ε _)
      (trace ++ [⟨.observe unit, observation⟩]) := by
  have hresults : earlier ++ [observation.result] =
      recordedResults (trace ++ [⟨.observe unit, observation⟩]) := by
    rw [recorded_results_append, ← hrecorded, recorded_results_single]
    rfl
  unfold confirmQuarantine
  split
  · next hquarantined =>
      exact Program.ensures_pure.mpr
        ⟨hsafe, hsafe, hresults, fun _ => ⟨trace, observation, rfl, hquarantined⟩⟩
  · exact ensures_concludes_behind [observation.result]
      (ensures_concludes_refused hsafe hresults _)

/-- What a trust validation leaves: one more event, which says what it accepted, and a failed
result when it refused. -/
def validates {β : Type} (unit : Launcher) (trace : List HostEvent)
    (accepted : β → HostEvent → Prop) (verdict : β → Bool) :
    Outcome ε (List CommandResult × β) → List HostEvent → Prop :=
  ending (QuarantineSafe unit) (fun _ _ => False) fun answer final =>
    ∃ event : HostEvent, final = trace ++ [event] ∧ QuarantineSafe unit final ∧
      event.results = answer.1 ∧ accepted answer.2 event ∧
      (verdict answer.2 = false → commandsSucceeded answer.1 = false)

/-- The trust validation before the mask returns an identity only where an accepted event shows
it. -/
theorem ensures_authenticates (active : Bool) (hsafe : QuarantineSafe unit trace) :
    Ensures anyReply
      (validates unit trace (fun verdict event =>
        ∀ identity, verdict = .ok identity → identity.Validated event) accepts)
      (authenticateBeforeMask unit active : HostProgram ε _) trace := by
  unfold authenticateBeforeMask
  split
  · next isSocket =>
      refine ensures_quarantine_ask hsafe isSocket (by simp) (fun _ hcut => hcut)
        fun reply hafter => Program.ensures_pure.mpr ⟨hafter, _, rfl, hafter, rfl, ?_, ?_⟩
      · intro identity hidentity
        obtain ⟨found, hverdict, rfl⟩ := Result.map_eq_ok.mp hidentity
        cases found with
        | none => trivial
        | some socket => exact ⟨reply, rfl, hverdict⟩
      · exact fun hrefused => reply.refused ((accepts_map _ _).symm.trans hrefused)
  · next isService =>
      split
      · refine ensures_quarantine_ask hsafe rfl (by simp) (fun _ hcut => hcut)
          fun reply hafter => Program.ensures_pure.mpr ⟨hafter, _, rfl, hafter, rfl, ?_, ?_⟩
        · intro identity hidentity
          obtain ⟨process, hverdict, rfl⟩ := Result.map_eq_ok.mp hidentity
          exact ⟨isService, reply, rfl, hverdict⟩
        · exact fun hrefused => reply.refused ((accepts_map _ _).symm.trans hrefused)
      · refine ensures_quarantine_ask hsafe rfl (by simp) (fun _ hcut => hcut)
          fun reply hafter => Program.ensures_pure.mpr ⟨hafter, _, rfl, hafter, rfl, ?_, ?_⟩
        · intro identity hidentity
          obtain ⟨_, -, rfl⟩ := Result.map_eq_ok.mp hidentity
          trivial
        · exact fun hrefused => reply.refused ((accepts_map _ _).symm.trans hrefused)

/-- The validation behind the mask accepts only where an event revalidates the identity. -/
theorem ensures_revalidates (identity : PreMaskIdentity unit) (hsafe : QuarantineSafe unit trace) :
    Ensures anyReply
      (validates unit trace (fun trusted event => trusted = true → identity.Revalidated event) id)
      (revalidateAfterMask unit identity : HostProgram ε _) trace := by
  cases identity with
  | socket socket isSocket =>
      refine ensures_quarantine_ask hsafe isSocket (by simp) (fun _ hcut => hcut)
        fun reply hafter => Program.ensures_pure.mpr ⟨hafter, _, rfl, hafter, rfl, ?_, ?_⟩
      · exact fun htrusted => ⟨reply, rfl, htrusted⟩
      · exact fun hrefused => reply.refused hrefused
  | process process =>
      refine ensures_quarantine_ask hsafe rfl (by simp) (fun _ hcut => hcut)
        fun reply hafter => Program.ensures_pure.mpr ⟨hafter, _, rfl, hafter, rfl, ?_, ?_⟩
      · exact fun htrusted => ⟨reply, rfl, htrusted⟩
      · exact fun hrefused => reply.refused hrefused
  | none =>
      refine ensures_quarantine_ask hsafe rfl (by simp) (fun _ hcut => hcut)
        fun reply hafter => Program.ensures_pure.mpr ⟨hafter, _, rfl, hafter, rfl, ?_, ?_⟩
      · exact fun htrusted => absurd htrusted Bool.false_ne_true
      · exact fun _ => rfl

/-- The stop, behind a masked and still active unit. -/
theorem ensures_concludes_stopped (identity : PreMaskIdentity unit)
    (hsafe : QuarantineSafe unit trace) (hmasked : MaskedActive identity trace)
    (hrecorded : earlier = recordedResults trace) :
    Ensures anyReply (concludes unit earlier) (stopMasked unit identity : HostProgram ε _)
      trace := by
  refine (ensures_revalidates identity hsafe).bind (fun _ hcut => hcut) (fun _ _ hraised => hraised)
    ?_
  rintro ⟨revalidation, trusted⟩ _ ⟨event, rfl, hafter, hresults, haccepted, hrefused⟩
  have hbehind : earlier ++ revalidation = recordedResults (trace ++ [event]) := by
    rw [recorded_results_append, ← hrecorded, recorded_results_single, hresults]
  cases trusted with
  | false => exact ensures_concludes_failed hafter hbehind (hrefused rfl)
  | true =>
      have hauthorized : StopAuthorized unit (trace ++ [event]) :=
        ⟨identity, trace, event, rfl, hmasked, haccepted rfl⟩
      refine Program.ensures_any_reply hafter fun stopped => ?_
      have hallowed : Quarantines unit (trace ++ [event]) (.systemctl .stop unit) :=
        ⟨⟨rfl, .inr rfl⟩, fun _ => hauthorized⟩
      have hstopped := hafter.snoc hallowed stopped
      have hreturned : earlier ++ (revalidation ++ [stopped]) = recordedResults
          (trace ++ [event] ++ [⟨.systemctl .stop unit, stopped⟩]) := by
        rw [recorded_results_append, ← hbehind, List.append_assoc, recorded_results_single]
        rfl
      show Ensures anyReply _ (if stopped.succeeded = true then _ else _) _
      split
      · refine ensures_quarantine_ask hstopped rfl (by simp) (fun _ hcut => hcut)
          fun observation hlast => ?_
        exact ensures_concludes_behind _ (ensures_concludes_confirmed hlast hreturned)
      · next hno => exact ensures_concludes_failed hstopped hreturned (by simp [hno])

/-- What follows a mask that succeeded concludes the quarantine. -/
theorem ensures_concludes_masked (identity : PreMaskIdentity unit) {before : Observation}
    {trust : HostEvent} {masked : CommandResult}
    (htrace : trace = [⟨.observe unit, before⟩, trust, ⟨.systemctl .mask unit, masked⟩])
    (hsafe : QuarantineSafe unit trace) (hvalidated : identity.Validated trust)
    (hmasked : masked.succeeded = true) (hrecorded : earlier = recordedResults trace) :
    Ensures anyReply (concludes unit earlier) (quarantineMasked unit identity : HostProgram ε _)
      trace := by
  refine ensures_quarantine_ask hsafe rfl (by simp) (fun _ hcut => hcut) fun shown hafter => ?_
  have hbehind : earlier ++ [shown.result] =
      recordedResults (trace ++ [⟨.observe unit, shown⟩]) := by
    rw [recorded_results_append, ← hrecorded, recorded_results_single]
    rfl
  show Ensures anyReply _ (if _ then _ else _) _
  split
  · exact ensures_concludes_behind [shown.result] (ensures_concludes_refused hafter hbehind _)
  · next hproved =>
      obtain ⟨hcode, -, hfile⟩ : shown.result.returncode = some 0 ∧ shown.state.active ≠ none ∧
          shown.state.unitFileState = some .masked := by
        simpa only [not_or, ne_eq, not_not] using hproved
      show Ensures anyReply _ (if _ then _ else _) _
      split
      · next hactive =>
          have hstill : MaskedActive identity (trace ++ [⟨.observe unit, shown⟩]) :=
            ⟨before, shown, trust, masked, by rw [htrace]; rfl, hvalidated, hmasked, hcode, hfile,
              hactive⟩
          exact ensures_concludes_behind [shown.result]
            (ensures_concludes_stopped identity hafter hstill hbehind)
      · exact ensures_concludes_confirmed hafter hrecorded

/-- The whole quarantine concludes as it should, from an empty trace and for any answers. -/
theorem ensures_concludes_quarantine (unit : Launcher) :
    Ensures anyReply (concludes unit []) (quarantineServiceForRollback unit : HostProgram ε _)
      [] := by
  refine ensures_quarantine_ask Program.allowed_nil rfl (by simp) (fun _ hcut => hcut)
    fun before hbefore => ?_
  have hrefused : ∀ reason, Ensures anyReply (concludes unit [])
      (do
        let failures ← refuseQuarantine unit reason
        pure (before.result :: failures) : HostProgram ε _) [⟨.observe unit, before⟩] :=
    fun reason => ensures_concludes_behind [before.result]
      (ensures_concludes_refused hbefore rfl reason)
  cases before.state.active with
  | none => exact hrefused _
  | some active =>
      show Ensures anyReply _ (if _ then _ else _) _
      split
      · exact hrefused _
      · refine (ensures_authenticates active hbefore).bind (fun _ hcut => hcut)
          (fun _ _ hraised => hraised) ?_
        rintro ⟨trust, verdict⟩ _ ⟨event, rfl, hafter, hresults, haccepted, hfailed⟩
        have htrusted : before.result :: trust =
            recordedResults ([⟨.observe unit, before⟩] ++ [event]) := by
          rw [recorded_results_append, recorded_results_single, recorded_results_single, hresults]
          rfl
        cases verdict with
        | error reason => exact ensures_concludes_failed hafter htrusted (by simp [hfailed rfl])
        | ok identity =>
            refine ensures_quarantine_ask hafter ⟨rfl, .inl rfl⟩ (by simp) (fun _ hcut => hcut)
              fun masked hmasked => ?_
            have hissued : before.result :: trust ++ [masked] = recordedResults
                ([⟨.observe unit, before⟩] ++ [event] ++ [⟨.systemctl .mask unit, masked⟩]) := by
              rw [recorded_results_append, ← htrusted, recorded_results_single]
              rfl
            show Ensures anyReply _ (if masked.succeeded = true then _ else _) _
            split
            · next hsucceeded =>
                exact ensures_concludes_behind _ (ensures_concludes_masked identity rfl hmasked
                  (haccepted identity rfl) hsucceeded hissued)
            · next hno => exact ensures_concludes_failed hmasked hissued (by simp [hno])

/-! ## Every run -/

/-- Whatever systemd, the trust validations and the commands answer: the unit is only masked and
stopped; a stop comes behind a mask that succeeded, an observation of the mask and a validation of
the identity from before it; and results without a failure end with the unit observed inactive and
masked, so that every other exit returns a failed result. A mask without a return code is the dry
run's, which executes no stop either. -/
theorem quarantine_sound {unit : Launcher} {outcome : Outcome Empty (List CommandResult)}
    {trace : List HostEvent}
    (hruns : Runs anyReply (quarantineServiceForRollback unit) [] outcome trace) :
    (∀ event ∈ trace, ∀ verb other, event.op = .systemctl verb other →
      other = unit ∧ (verb = .mask ∨ verb = .stop)) ∧
    (∀ before reply after, trace = before ++ ⟨.systemctl .stop unit, reply⟩ :: after →
      StopAuthorized unit before) ∧
    ∀ results, outcome = .returned results →
      results = recordedResults trace ∧
      ((∀ result ∈ results, result.returncode = some 0 ∨ result.returncode = none) →
        EndsQuarantined unit trace) ∧
      (¬ EndsQuarantined unit trace →
        ∃ result ∈ results, ∃ code, result.returncode = some code ∧ code ≠ 0) := by
  have hends := (ensures_concludes_quarantine unit).runs hruns
  have hsafe : QuarantineSafe unit trace := by
    cases outcome with
    | interrupted => exact hends
    | raised error => exact error.elim
    | returned results => exact hends.1
  refine ⟨?_, fun before reply after hsplit => (hsafe _ _ _ hsplit).2 rfl, ?_⟩
  · intro event hmem verb other hop
    obtain ⟨before, after, hsplit⟩ := List.append_of_mem hmem
    have hquarantines := (hsafe before event after hsplit).1
    rw [hop] at hquarantines
    exact hquarantines
  · rintro results rfl
    obtain ⟨-, hrecorded, hquarantined⟩ := hends
    have hgoal : (∀ result ∈ results, result.returncode = some 0 ∨ result.returncode = none) →
        EndsQuarantined unit trace := by
      intro hall
      refine hquarantined (List.all_eq_true.mpr fun result hmem => ?_)
      simpa [CommandResult.succeeded] using hall result hmem
    refine ⟨hrecorded, hgoal, fun hmissed => ?_⟩
    by_contra hnone
    refine hmissed (hgoal fun result hmem => ?_)
    by_contra hcode
    obtain ⟨hzero, hsome⟩ := not_or.mp hcode
    obtain ⟨code, heq⟩ := Option.ne_none_iff_exists'.mp hsome
    exact hnone ⟨result, hmem, code, heq, fun h => hzero (by rw [heq, h])⟩

/-- Everything that the quarantine of a running Docker service issues on an ideal systemd. -/
def dockerQuarantine : List HostEvent :=
  Program.issued (systemd (convergedHost (some true) (some true))).serveUnit
    (quarantineServiceForRollback .dockerService : HostProgram Empty _) runningUnit

/-- The quarantine of a running Docker service stops it behind its authorization and reaches the
goal. -/
theorem quarantine_sound_running_docker :
    StopAuthorized .dockerService (dockerQuarantine.take 5) ∧
      EndsQuarantined .dockerService dockerQuarantine := by
  have hruns : Runs anyReply (quarantineServiceForRollback .dockerService) [] _ dockerQuarantine :=
    Program.runs_issued (systemd (convergedHost (some true) (some true))).serveUnit
      (fun _ _ _ => rfl) (quarantineServiceForRollback .dockerService : HostProgram Empty _)
      runningUnit []
  have hsound := quarantine_sound hruns
  refine ⟨hsound.2.1 (dockerQuarantine.take 5) _ (dockerQuarantine.drop 6) rfl, ?_⟩
  exact (hsound.2.2 _ rfl).2.1 (by decide +kernel)

end NvidiaConverge
