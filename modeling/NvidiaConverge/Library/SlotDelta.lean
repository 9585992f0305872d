import Mathlib

/-!
# Differences of slotted sets

A set of identities, each of which sits in a slot, is taken to a base set by installing the
missing identities and removing the extra ones. An installer that puts identities side by side
and one that replaces the occupant of a slot need different removals; this file says which
removals are exact for which installer. Nothing here refers to a particular program.
-/

namespace SlotDelta

variable {ι σ : Type*} (slot : ι → σ) (base current : Set ι)

/-- The identities of the base set that are missing. -/
def missing : Set ι := base \ current

/-- The extra identities that no install of a missing identity replaces: their slot is empty in
the base set, or it keeps an identity of the base set. -/
def added : Set ι :=
  {i ∈ current \ base | slot i ∉ slot '' base ∨ slot i ∈ slot '' (current ∩ base)}

/-- The extra identities in the slot of a missing one. -/
def displaced : Set ι := {i ∈ current \ base | slot i ∈ slot '' missing base current}

/-- Every slot that gains an identity loses all that it holds. -/
def WholeSlots : Prop := Disjoint (slot '' missing base current) (slot '' (current ∩ base))

/-- What is there after removals and installs that replace nothing else. -/
def sideBySide (removals installs : Set ι) : Set ι := current \ removals ∪ installs

/-- An install replaces every identity of its slot. -/
def replacing (removals installs : Set ι) : Set ι :=
  {i ∈ current \ removals | slot i ∉ slot '' installs} ∪ installs

variable {slot base current}

/-- The added and the displaced identities are the extra ones. -/
theorem added_union_displaced : added slot base current ∪ displaced slot base current =
    current \ base := by
  ext i
  constructor
  · rintro (hi | hi)
    · exact hi.1
    · exact hi.1
  · intro hi
    by_cases hslot : slot i ∈ slot '' base
    · obtain ⟨b, hb, heq⟩ := hslot
      by_cases hcurrent : b ∈ current
      · exact .inl ⟨hi, .inr ⟨b, ⟨hcurrent, hb⟩, heq⟩⟩
      · exact .inr ⟨hi, b, ⟨hb, hcurrent⟩, heq⟩
    · exact .inl ⟨hi, .inl hslot⟩

/-- Side by side, removing exactly the extra identities is exact. -/
theorem side_by_side_extra :
    sideBySide current (current \ base) (missing base current) = base := by
  rw [sideBySide, Set.sdiff_sdiff_right_self, missing, Set.inter_comm]
  exact Set.inter_union_sdiff base current

/-- Unique slots of the base set leave whole slots. -/
theorem whole_slots_of_inj (h : Set.InjOn slot base) : WholeSlots slot base current := by
  rw [WholeSlots, Set.disjoint_left]
  rintro _ ⟨r, hr, rfl⟩ ⟨c, hc, heq⟩
  exact hr.2 (h hc.2 hr.1 heq ▸ hc.1)

/-- Replacing slots, the added identities are the ones to remove exactly when every slot that
gains an identity loses all that it holds. -/
theorem replacing_exact_iff :
    replacing slot current (added slot base current) (missing base current) = base ↔
      WholeSlots slot base current := by
  constructor
  · intro h
    rw [WholeSlots, Set.disjoint_left]
    rintro _ ⟨r, hr, rfl⟩ ⟨c, hc, heq⟩
    -- A kept identity of the base set is replaced together with its slot.
    have hmem : c ∈ replacing slot current (added slot base current) (missing base current) := by
      rw [h]
      exact hc.2
    rcases hmem with ⟨-, hfree⟩ | hmissing
    · exact hfree ⟨r, hr, heq.symm⟩
    · exact hmissing.2 hc.1
  · intro h
    ext i
    constructor
    · rintro (⟨⟨hcurrent, hkept⟩, hfree⟩ | hmissing)
      · by_contra hbase
        have hextra : i ∈ added slot base current ∪ displaced slot base current := by
          rw [added_union_displaced]
          exact ⟨hcurrent, hbase⟩
        rcases hextra with hadded | hdisplaced
        · exact hkept hadded
        · exact hfree hdisplaced.2
      · exact hmissing.1
    · intro hbase
      by_cases hcurrent : i ∈ current
      · refine .inl ⟨⟨hcurrent, fun hadded => hadded.1.2 hbase⟩, fun hslot => ?_⟩
        exact Set.disjoint_left.mp h hslot ⟨i, ⟨hcurrent, hbase⟩, rfl⟩
      · exact .inr ⟨hbase, hcurrent⟩

/-- No identity of the base set is added or displaced. -/
theorem extra_disjoint :
    Disjoint (added slot base current ∪ displaced slot base current) base := by
  rw [added_union_displaced]
  exact Set.disjoint_sdiff_left

/-- A slot that gains an identity and loses an added one still holds one of the base set. -/
theorem restored_and_added_slot {s : σ} (hmissing : s ∈ slot '' missing base current)
    (hadded : s ∈ slot '' added slot base current) : s ∈ slot '' (current ∩ base) := by
  obtain ⟨r, hr, rfl⟩ := hmissing
  obtain ⟨i, hi, heq⟩ := hadded
  rcases hi.2 with hfree | hheld
  · exact absurd ⟨r, hr.1, heq.symm⟩ hfree
  · exact heq ▸ hheld

/-- Whole slots gain or lose added identities, never both. -/
theorem restored_added_disjoint (h : WholeSlots slot base current) :
    Disjoint (slot '' missing base current) (slot '' added slot base current) := by
  rw [Set.disjoint_left]
  intro s hmissing hadded
  exact Set.disjoint_left.mp h hmissing (restored_and_added_slot hmissing hadded)

/-- Everything installed in the slots of the missing identities, with the added identities, is
the extra set exactly when these slots are whole. -/
theorem occupants_eq_extra_iff :
    added slot base current ∪ {i ∈ current | slot i ∈ slot '' missing base current} =
      current \ base ↔ WholeSlots slot base current := by
  constructor
  · intro h
    rw [WholeSlots, Set.disjoint_left]
    rintro _ hmissing ⟨c, hc, rfl⟩
    have hextra : c ∈ current \ base := h ▸ .inr ⟨hc.1, hmissing⟩
    exact hextra.2 hc.2
  · intro h
    rw [← @added_union_displaced _ _ slot]
    ext i
    constructor
    · rintro (hadded | ⟨hcurrent, hslot⟩)
      · exact .inl hadded
      · refine .inr ⟨⟨hcurrent, fun hbase => ?_⟩, hslot⟩
        exact Set.disjoint_left.mp h hslot ⟨i, ⟨hcurrent, hbase⟩, rfl⟩
    · rintro (hadded | hdisplaced)
      · exact .inl hadded
      · exact .inr ⟨hdisplaced.1.1, hdisplaced.2⟩

/-- An installer that adds the missing identities and takes some others away is exact exactly when
it keeps the installed identities of the base set and takes the displaced ones, provided that it
takes the added ones. -/
theorem taken_exact_iff {gone : Set ι} (hadded : added slot base current ⊆ gone) :
    current \ gone ∪ missing base current = base ↔
      Disjoint gone (current ∩ base) ∧ displaced slot base current ⊆ gone := by
  constructor
  · intro h
    constructor
    · rw [Set.disjoint_left]
      rintro i hgone ⟨hcurrent, hbase⟩
      have hleft : i ∈ current \ gone ∪ missing base current := h.symm.subset hbase
      rcases hleft with hkept | hmissing
      · exact hkept.2 hgone
      · exact hmissing.2 hcurrent
    · intro i hdisplaced
      by_contra hstays
      have hbase : i ∈ base := by
        rw [← h]
        exact .inl ⟨hdisplaced.1.1, hstays⟩
      exact hdisplaced.1.2 hbase
  · rintro ⟨hkept, hdisplaced⟩
    have hextra : current \ base ⊆ gone := by
      rw [← @added_union_displaced _ _ slot]
      exact Set.union_subset hadded hdisplaced
    ext i
    constructor
    · rintro (⟨hcurrent, hstays⟩ | hmissing)
      · by_contra hbase
        exact hstays (hextra ⟨hcurrent, hbase⟩)
      · exact hmissing.1
    · intro hbase
      by_cases hcurrent : i ∈ current
      · exact .inl ⟨hcurrent, fun hgone => Set.disjoint_left.mp hkept hgone ⟨hcurrent, hbase⟩⟩
      · exact .inr ⟨hbase, hcurrent⟩

/-! ## Observed parts -/

section Observed

variable {observed host gone brought : Set ι}

/-- What a transaction on observed identities leaves to observe. -/
theorem observed_after (hbrought : brought ⊆ observed) :
    (host \ gone ∪ brought) ∩ observed = (host ∩ observed) \ gone ∪ brought := by
  ext i
  constructor
  · rintro ⟨⟨hhost, hstays⟩ | hnew, hseen⟩
    · exact .inl ⟨⟨hhost, hseen⟩, hstays⟩
    · exact .inr hnew
  · rintro (⟨⟨hhost, hseen⟩, hstays⟩ | hnew)
    · exact ⟨.inl ⟨hhost, hstays⟩, hseen⟩
    · exact ⟨.inr hnew, hbrought hnew⟩

/-- A transaction on observed identities changes nothing else. -/
theorem unobserved_after (hbrought : brought ⊆ observed) (hgone : host ∩ gone ⊆ observed) :
    (host \ gone ∪ brought) \ observed = host \ observed := by
  ext i
  constructor
  · rintro ⟨⟨hhost, -⟩ | hnew, hhidden⟩
    · exact ⟨hhost, hhidden⟩
    · exact absurd (hbrought hnew) hhidden
  · rintro ⟨hhost, hhidden⟩
    exact ⟨.inl ⟨hhost, fun htaken => hhidden (hgone ⟨hhost, htaken⟩)⟩, hhidden⟩

/-- What is missing afterwards was taken away and not brought back. -/
theorem missing_after : missing base (base \ gone ∪ brought) = (base ∩ gone) \ brought := by
  ext i
  constructor
  · rintro ⟨hbase, hnot⟩
    by_cases htaken : i ∈ gone
    · exact ⟨⟨hbase, htaken⟩, fun hnew => hnot (.inr hnew)⟩
    · exact absurd (.inl ⟨hbase, htaken⟩) hnot
  · rintro ⟨⟨hbase, htaken⟩, hnew⟩
    refine ⟨hbase, ?_⟩
    rintro (⟨-, hstays⟩ | hback)
    · exact hstays htaken
    · exact hnew hback

/-- What is extra after a transaction on the baseline is what the transaction has brought. -/
theorem extra_after : (base \ gone ∪ brought) \ base = brought \ base := by
  ext i
  constructor
  · rintro ⟨⟨hbase, -⟩ | hnew, hextra⟩
    · exact absurd hbase hextra
    · exact ⟨hnew, hextra⟩
  · rintro ⟨hnew, hextra⟩
    exact ⟨.inr hnew, hextra⟩

end Observed

/-! ## Renamed identities -/

section Renaming

variable {κ τ : Type*} {f : ι → κ} {slot' : κ → τ}

/-- A renaming that tells the identities of a set apart and keeps their slots. -/
structure Renames (f : ι → κ) (slot : ι → σ) (slot' : κ → τ) (known : Set ι) : Prop where
  injective : Set.InjOn f known
  slots : ∀ i ∈ known, ∀ j ∈ known, slot' (f i) = slot' (f j) ↔ slot i = slot j

variable {known : Set ι}

/-- A slot is taken by renamed identities exactly when it was. -/
theorem Renames.taken_iff (h : Renames f slot slot' known) {i : ι} (hi : i ∈ known) {s : Set ι}
    (hs : s ⊆ known) : slot' (f i) ∈ slot' '' (f '' s) ↔ slot i ∈ slot '' s := by
  constructor
  · rintro ⟨_, ⟨j, hj, rfl⟩, heq⟩
    exact ⟨j, hj, (h.slots j (hs hj) i hi).mp heq⟩
  · rintro ⟨j, hj, heq⟩
    exact ⟨f j, ⟨j, hj, rfl⟩, (h.slots j (hs hj) i hi).mpr heq⟩

/-- An injective renaming of the known identities keeps the difference of two sets. -/
theorem Renames.image_sdiff (h : Renames f slot slot' known) {s t : Set ι} (hs : s ⊆ known)
    (ht : t ⊆ known) : f '' s \ f '' t = f '' (s \ t) := by
  ext j
  constructor
  · rintro ⟨⟨i, hi, rfl⟩, hnot⟩
    exact ⟨i, ⟨hi, fun hmem => hnot ⟨i, hmem, rfl⟩⟩, rfl⟩
  · rintro ⟨i, ⟨hi, hnot⟩, rfl⟩
    refine ⟨⟨i, hi, rfl⟩, ?_⟩
    rintro ⟨j, hj, heq⟩
    exact hnot (h.injective (ht hj) (hs hi) heq ▸ hj)

/-- A renaming carries the missing identities to the missing identities of the images. -/
theorem Renames.missing_image (h : Renames f slot slot' known) (hbase : base ⊆ known)
    (hcurrent : current ⊆ known) :
    missing (f '' base) (f '' current) = f '' missing base current :=
  h.image_sdiff hbase hcurrent

/-- A renaming carries the added identities to the added identities of the images. -/
theorem Renames.added_image (h : Renames f slot slot' known) (hbase : base ⊆ known)
    (hcurrent : current ⊆ known) :
    added slot' (f '' base) (f '' current) = f '' added slot base current := by
  have hkept : f '' current ∩ f '' base = f '' (current ∩ base) :=
    ((h.injective.mono (Set.union_subset hcurrent hbase)).image_inter Set.subset_union_left
      Set.subset_union_right).symm
  rw [added, h.image_sdiff hcurrent hbase, hkept]
  ext j
  constructor
  · rintro ⟨⟨i, hi, rfl⟩, hslot⟩
    rw [h.taken_iff (hcurrent hi.1) hbase,
      h.taken_iff (hcurrent hi.1) (Set.inter_subset_left.trans hcurrent)] at hslot
    exact ⟨i, ⟨hi, hslot⟩, rfl⟩
  · rintro ⟨i, ⟨hi, hslot⟩, rfl⟩
    refine ⟨⟨i, hi, rfl⟩, ?_⟩
    rw [h.taken_iff (hcurrent hi.1) hbase,
      h.taken_iff (hcurrent hi.1) (Set.inter_subset_left.trans hcurrent)]
    exact hslot

/-- A renaming that shrinks whatever it changes keeps finitely many identities only when it
changes none of them. -/
theorem fixed_of_image_eq {f : ι → ι} {size : ι → ℕ} {items : List ι}
    (hshrinks : ∀ i, f i = i ∨ size (f i) < size i) (h : ∀ i ∈ items, ∃ j ∈ items, f j = i) :
    ∀ i ∈ items, f i = i := by
  have hbound : ∀ i ∈ items, size i ≤ (items.map size).sum := fun i hi =>
    List.le_sum_of_mem (List.mem_map_of_mem hi)
  -- By induction on how far an identity is below the bound: what it comes from is larger.
  have hfixed : ∀ n, ∀ i ∈ items, (items.map size).sum ≤ size i + n → f i = i := by
    intro n
    induction n with
    | zero =>
        intro i hi hlarge
        obtain ⟨j, hj, rfl⟩ := h i hi
        rcases hshrinks j with hsame | hsmaller
        · rw [hsame, hsame]
        · have := hbound j hj
          omega
    | succ n ih =>
        intro i hi hlarge
        obtain ⟨j, hj, rfl⟩ := h i hi
        rcases hshrinks j with hsame | hsmaller
        · rw [hsame, hsame]
        · have hsame := ih j hj (by omega)
          rw [hsame, hsame]
  exact fun i hi => hfixed _ i hi (Nat.le_add_left _ _)

end Renaming

end SlotDelta
