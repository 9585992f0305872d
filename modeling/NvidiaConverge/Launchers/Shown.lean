import NvidiaConverge.Launchers.Observe
import NvidiaConverge.Launchers.World

/-!
# A masked unit as the observers see it

Between the mask of a quarantine and its stop a unit is masked and still active. Until systemd has
read its unit files again it prints the unit as loaded, and afterwards as masked. The audit knows
the unit in neither case, the rollback's observer in both, and the trusted observers accept it only
while it is loaded.
-/

namespace NvidiaConverge

/-! ## The identity of an active unit -/

/-- The identity that the trusted observer finds is one that the host binds. -/
theorem observe_trusted_bound {host : TrustHost} {unit : Launcher} {shown : CommandResult}
    {observation : TrustedServiceObservation unit} {identity : TrustedGpuServiceIdentity unit}
    (h : (observeTrustedService host unit shown).2 = .ok observation)
    (hidentity : observation.identity = some identity) :
    ∃ properties pid, host.bindActive unit properties pid = .ok identity := by
  unfold observeTrustedService at h
  split at h
  · cases h
  · simp only at h
    split at h
    · cases h
    split at h
    · cases h
    split at h
    · split at h
      · cases h
      · cases h
        cases hidentity
    split at h
    · cases h
    split at h
    · split at h
      · cases h
      · obtain ⟨bound, hbound, rfl⟩ := Result.map_eq_ok.mp h
        obtain rfl := Option.some.inj hidentity
        exact ⟨_, _, hbound⟩
    split at h
    · split at h
      · cases h
      · cases h
        cases hidentity
    · cases h

/-- The identity that the validation of an active unit accepts is one that the host binds. -/
theorem validate_active_bound {host : TrustHost} {unit : Launcher} {shown : CommandResult}
    {expected : Option (TrustedGpuServiceIdentity unit)} {identity : TrustedGpuServiceIdentity unit}
    (h : (validateActiveTrustedGpuService host unit expected shown).verdict = .ok identity) :
    ∃ properties pid, host.bindActive unit properties pid = .ok identity := by
  unfold validateActiveTrustedGpuService at h
  split at h
  · cases h
  · obtain ⟨observation, hobserved, hchecked⟩ := Result.bind_eq_ok.mp h
    cases hidentity : observation.identity with
    | none =>
        rw [hidentity] at hchecked
        cases hchecked
    | some found =>
        rw [hidentity] at hchecked
        obtain ⟨-, hfound⟩ := Result.check_bind_eq_ok.mp hchecked
        obtain rfl := Result.pure_eq_ok.mp hfound
        exact observe_trusted_bound hobserved hidentity

/-! ## Masked and still active -/

/-- The properties that the trusted observer of a unit asks for. -/
def trustedProperties (unit : Launcher) : List String :=
  if unit = .dockerSocket then dockerSocketProperties else serviceProperties

/-- The unit is running and its files and its process pass the trust checks of the host. -/
structure Authentic (host : TrustHost) (unit : Launcher) (full : CommandResult)
    (properties : Properties) : Prop where
  systemctl : host.systemctl = true
  exited : full.returncode = some 0
  socket : unit = .dockerSocket → properties.value "SubState" = "listening" ∧
    ∃ identity, host.bindSocket properties = .ok identity
  service : unit ≠ .dockerSocket → properties.value "SubState" = "running" ∧
    properties.value "FragmentPath" ≠ "" ∧
    Text.isDigitText (properties.value "MainPID") = true ∧
    Text.decimalValue (properties.value "MainPID") ≠ 0 ∧
    ∃ identity, host.bindActive unit properties
      (Text.decimalValue (properties.value "MainPID")) = .ok identity

/-- systemd prints the unit as masked and still active, with this load state; `full` is what the
trusted observers see, and while the unit is loaded its process is the authentic one. -/
structure ShownMaskedActive (host : TrustHost) (unit : Launcher) (loadState : String)
    (shown full : CommandResult) : Prop where
  load : loadState = "loaded" ∨ loadState = "masked"
  whole : isWhole shown = true
  printed : ∃ properties, readProperties stateProperties (Text.lines shown.stdout) =
    some properties ∧ properties.value "Id" = unit.unit ∧
      properties.value "LoadState" = loadState ∧ properties.value "ActiveState" = "active" ∧
      properties.value "UnitFileState" = "masked"
  full : ∃ properties, parseTrustedProperties (trustedProperties unit) full.stdout =
    some properties ∧ properties.value "Id" = unit.unit ∧
      properties.value "LoadState" = loadState ∧ properties.value "ActiveState" = "active" ∧
      (loadState = "loaded" → Authentic host unit full properties)

variable {unit : Launcher} {loadState : String} {shown full : CommandResult} {host : TrustHost}

/-- A result that is whole comes from a command that succeeded. -/
theorem returncode_of_whole (h : isWhole shown = true) : shown.returncode = some 0 := by
  simp only [isWhole, Bool.and_eq_true, beq_iff_eq] at h
  exact h.1

namespace ShownMaskedActive

/-- The audit's parser knows nothing about such a unit, whatever its load state is. -/
theorem audited (h : ShownMaskedActive host unit loadState shown full) :
    parseServiceState shown unit.unit = {} := by
  obtain ⟨properties, hread, hid, hload, hactive, hfile⟩ := h.printed
  rcases h.load with rfl | rfl <;>
    simp [parseServiceState, h.whole, hread, hid, hload, hactive, hfile, restorableUnitFileState,
      UnitFileState.value]

/-- The rollback's observer takes such a unit as active and masked, whatever its load state is. -/
theorem observed (h : ShownMaskedActive host unit loadState shown full) :
    observeServiceState shown unit.unit =
      { result := shown
        state :=
          { active := some true, enabled := some false, unitFileState := some .masked } } := by
  obtain ⟨properties, hread, hid, hload, hactive, hfile⟩ := h.printed
  rcases h.load with rfl | rfl <;>
    simp [observeServiceState, h.audited, parseMaskedUnitFileState, h.whole, hread, hid, hload,
      hactive, hfile]

/-- The trusted observer admits no active unit that is not loaded. -/
theorem untrusted (h : ShownMaskedActive host unit "masked" shown full)
    (hservice : unit ≠ .dockerSocket) :
    ∃ error, (observeTrustedService host unit full).2 = .error error := by
  obtain ⟨properties, hparse, hid, hload, hactive, -⟩ := h.full
  rw [trustedProperties, if_neg hservice] at hparse
  unfold observeTrustedService
  rw [hparse]
  simp only [hload, hactive]
  rw [if_neg (not_not.mpr hid)]
  split
  · exact ⟨_, rfl⟩
  · rw [if_neg (by decide)]
    split
    · exact ⟨_, rfl⟩
    · rw [if_pos True.intro, if_pos (Or.inl (by decide))]
      exact ⟨_, rfl⟩

/-- The trusted observer takes a loaded unit with an authentic process as active. -/
theorem trusted (h : ShownMaskedActive host unit "loaded" shown full)
    (hservice : unit ≠ .dockerSocket) :
    ∃ observation identity, (observeTrustedService host unit full).2 = .ok observation ∧
      observation.active = true ∧ observation.identity = some identity := by
  obtain ⟨properties, hparse, hid, hload, hactive, hauthentic⟩ := h.full
  have hauthentic := hauthentic rfl
  obtain ⟨hrunning, hfragment, hdigits, hpid, identity, hbind⟩ := hauthentic.service hservice
  rw [trustedProperties, if_neg hservice] at hparse
  unfold observeTrustedService
  rw [hparse]
  simp only [hload, hactive]
  rw [if_neg (not_not.mpr hid), if_neg (by simp [hdigits]), if_neg (by decide),
    if_neg (not_not.mpr hauthentic.exited), if_pos True.intro,
    if_neg (by simp [hrunning, hpid, hfragment]), hbind]
  exact ⟨_, identity, rfl, rfl, rfl⟩

/-- The validation of an active unit refuses a unit that is not loaded. -/
theorem refuses_active (h : ShownMaskedActive host unit "masked" shown full)
    (hservice : unit ≠ .dockerSocket) :
    ∃ error, (validateActiveTrustedGpuService host unit none full).verdict = .error error := by
  obtain ⟨error, herror⟩ := h.untrusted hservice
  unfold validateActiveTrustedGpuService
  split
  · exact ⟨_, rfl⟩
  · refine ⟨error, ?_⟩
    show (do
      let observation ← (observeTrustedService host unit full).2
      _) = _
    rw [herror]
    rfl

/-- The validation of an active unit accepts a loaded unit with an authentic process. -/
theorem accepts_active (h : ShownMaskedActive host unit "loaded" shown full)
    (hservice : unit ≠ .dockerSocket) :
    ∃ identity, (validateActiveTrustedGpuService host unit none full).verdict = .ok identity := by
  obtain ⟨observation, identity, hobserved, -, hidentity⟩ := h.trusted hservice
  obtain ⟨properties, -, -, -, -, hauthentic⟩ := h.full
  refine ⟨identity, ?_⟩
  unfold validateActiveTrustedGpuService
  rw [if_neg (by simp [(hauthentic rfl).systemctl])]
  show (do
    let observation ← (observeTrustedService host unit full).2
    _) = _
  rw [hobserved]
  simp only [Result.ok_bind, hidentity]
  rfl

/-- The validation of the Docker socket refuses a masked socket that is still active. -/
theorem refuses_socket (h : ShownMaskedActive host .dockerSocket "masked" shown full)
    (allowMasked : Bool) :
    ∃ error, (validateTrustedDockerSocketUnit host allowMasked full).verdict = .error error := by
  obtain ⟨properties, hparse, -, hload, hactive, -⟩ := h.full
  rw [trustedProperties, if_pos rfl] at hparse
  unfold validateTrustedDockerSocketUnit
  split
  · exact ⟨_, rfl⟩
  · show ∃ error, dockerSocketVerdict host allowMasked full = .error error
    cases hverdict : dockerSocketVerdict host allowMasked full with
    | error error => exact ⟨error, rfl⟩
    | ok identity =>
        exfalso
        unfold dockerSocketVerdict at hverdict
        rw [hparse] at hverdict
        obtain ⟨-, hverdict⟩ := Result.check_bind_eq_ok.mp hverdict
        rw [if_pos (Or.inl hload)] at hverdict
        obtain ⟨_, hinert, _⟩ := Result.bind_eq_ok.mp hverdict
        obtain ⟨-, hinert⟩ := Result.check_bind_eq_ok.mp hinert
        obtain ⟨-, hinert⟩ := Result.check_bind_eq_ok.mp hinert
        obtain ⟨hinactive, -⟩ := Result.check_bind_eq_ok.mp hinert
        -- The inert check wants the unit inactive, and it is shown active.
        exact absurd hinactive (by simp [Result.refuse_eq_ok, hactive])

/-- The validation of the Docker socket accepts a loaded socket that listens. -/
theorem accepts_socket (h : ShownMaskedActive host .dockerSocket "loaded" shown full)
    (allowMasked : Bool) :
    ∃ identity,
      (validateTrustedDockerSocketUnit host allowMasked full).verdict = .ok (some identity) := by
  obtain ⟨properties, hparse, hid, hload, hactive, hauthentic⟩ := h.full
  have hauthentic := hauthentic rfl
  obtain ⟨hlistening, identity, hbind⟩ := hauthentic.socket rfl
  rw [trustedProperties, if_pos rfl] at hparse
  refine ⟨identity, ?_⟩
  unfold validateTrustedDockerSocketUnit
  rw [if_neg (by simp [hauthentic.systemctl])]
  show dockerSocketVerdict host allowMasked full = _
  unfold dockerSocketVerdict
  rw [hparse]
  simp only [hload, hactive, hlistening]
  rw [Result.check_bind_eq_ok]
  refine ⟨Result.refuse_eq_ok.mpr (not_not.mpr hid), ?_⟩
  rw [if_neg (by decide), Result.check_bind_eq_ok]
  refine ⟨Result.refuse_eq_ok.mpr (not_not.mpr hauthentic.exited), ?_⟩
  rw [Result.check_bind_eq_ok]
  refine ⟨Result.refuse_eq_ok.mpr (by decide), ?_⟩
  rw [Result.check_bind_eq_ok]
  refine ⟨Result.refuse_eq_ok.mpr (by decide), ?_⟩
  rw [hbind]
  rfl

end ShownMaskedActive

/-! ## Masked and inactive -/

/-- systemd prints the unit as masked and inactive; of a service it prints no process either. -/
structure ShownMaskedInactive (unit : Launcher) (shown full : CommandResult) : Prop where
  whole : isWhole shown = true
  printed : ∃ properties, readProperties stateProperties (Text.lines shown.stdout) =
    some properties ∧ properties.value "Id" = unit.unit ∧
      (properties.value "LoadState" = "loaded" ∨ properties.value "LoadState" = "masked") ∧
      properties.value "ActiveState" = "inactive" ∧ properties.value "UnitFileState" = "masked"
  service : unit ≠ .dockerSocket → full.returncode = some 0 ∧
    ∃ properties, parseTrustedProperties serviceProperties full.stdout = some properties ∧
      properties.value "Id" = unit.unit ∧ properties.value "LoadState" ≠ "not-found" ∧
      properties.value "ActiveState" = "inactive" ∧ properties.value "SubState" = "dead" ∧
      Text.isDigitText (properties.value "MainPID") = true ∧
      Text.decimalValue (properties.value "MainPID") = 0

namespace ShownMaskedInactive

/-- The rollback's observer takes such a unit as quarantined, whatever its load state is. -/
theorem quarantined (h : ShownMaskedInactive unit shown full) :
    (observeServiceState shown unit.unit).quarantined = true := by
  obtain ⟨properties, hread, hid, hload, hactive, hfile⟩ := h.printed
  have hcode := returncode_of_whole h.whole
  rcases hload with hload | hload <;>
    simp [observeServiceState, parseServiceState, parseMaskedUnitFileState, h.whole, hread, hid,
      hload, hactive, hfile, hcode, Observation.quarantined, restorableUnitFileState,
      UnitFileState.value]

/-- The trusted observer takes such a service as inactive. -/
theorem trusted (host : TrustHost) (h : ShownMaskedInactive unit shown full)
    (hservice : unit ≠ .dockerSocket) :
    ∃ observation, (observeTrustedService host unit full).2 = .ok observation ∧
      observation.active = false := by
  obtain ⟨hexited, properties, hparse, hid, hload, hinactive, hdead, hdigits, hpid⟩ :=
    h.service hservice
  unfold observeTrustedService
  rw [hparse]
  simp only [hinactive, hdead]
  rw [if_neg (not_not.mpr hid), if_neg (by simp [hdigits]), if_neg hload,
    if_neg (not_not.mpr hexited), if_neg (by decide), if_pos (Or.inl trivial),
    if_neg (by simp [hpid])]
  exact ⟨_, rfl, rfl⟩

end ShownMaskedInactive

end NvidiaConverge
