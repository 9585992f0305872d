import Mathlib

/-!
# Readers that may fail

Checks that raise, and the inversion of a sequence of them: a computation in `Except` that
returned passed every check. `traverse_map_eq_ok` is the array case of an encoder and decoder
that agree item by item.
-/

namespace Result

variable {ε α β : Type}

/-- `if condition: raise error`. -/
def refuse (condition : Prop) [Decidable condition] (error : ε) : Except ε Unit :=
  if condition then throw error else pure ()

/-- A check that returned did not find its condition. -/
@[simp] theorem refuse_eq_ok {condition : Prop} [Decidable condition] {error : ε} {u : Unit} :
    refuse condition error = .ok u ↔ ¬ condition := by
  unfold refuse
  split
  · next h => exact ⟨fun hthrow => (by cases hthrow), fun hn => absurd h hn⟩
  · next h => exact ⟨fun _ => h, fun _ => rfl⟩

/-- A check whose condition does not hold lets the computation go on. -/
theorem refuse_of_not {condition : Prop} [Decidable condition] {error : ε} (h : ¬ condition) :
    refuse condition error = .ok () :=
  refuse_eq_ok.mpr h

/-- A computation whose success is decided returned something. -/
theorem exists_of_to_bool {x : Except ε α} (h : x.toBool = true) : ∃ a, x = .ok a := by
  cases x with
  | error => cases h
  | ok a => exact ⟨a, rfl⟩

/-- A sequence returned when both of its parts did. -/
theorem bind_eq_ok {x : Except ε α} {f : α → Except ε β} {b : β} :
    (x >>= f) = .ok b ↔ ∃ a, x = .ok a ∧ f a = .ok b := by
  cases x with
  | error e => exact ⟨fun h => (by cases h), fun ⟨_, h, _⟩ => (by cases h)⟩
  | ok a => exact ⟨fun h => ⟨a, rfl, h⟩, fun ⟨_, h, hf⟩ => (by cases h; exact hf)⟩

/-- A check before a step succeeds exactly when the check passes and the step succeeds. -/
theorem check_bind_eq_ok {x : Except ε Unit} {f : Unit → Except ε β} {b : β} :
    (x >>= f) = .ok b ↔ x = .ok () ∧ f () = .ok b := by
  rw [bind_eq_ok]
  exact ⟨fun ⟨_, hx, hf⟩ => ⟨hx, hf⟩, fun ⟨hx, hf⟩ => ⟨(), hx, hf⟩⟩

@[simp] theorem pure_eq_ok {a b : α} : (pure a : Except ε α) = .ok b ↔ a = b :=
  ⟨fun h => (by cases h; rfl), fun h => (by rw [h]; rfl)⟩

@[simp] theorem throw_eq_ok {e : ε} {a : α} : (throw e : Except ε α) = .ok a ↔ False :=
  ⟨fun h => (by cases h), False.elim⟩

@[simp] theorem ok_bind {a : α} {f : α → Except ε β} : ((.ok a : Except ε α) >>= f) = f a :=
  rfl

@[simp] theorem error_bind {e : ε} {f : α → Except ε β} :
    ((.error e : Except ε α) >>= f) = .error e :=
  rfl

/-- A mapped result succeeds with the images of the values it succeeds with. -/
@[simp] theorem map_eq_ok {x : Except ε α} {f : α → β} {b : β} :
    (f <$> x) = .ok b ↔ ∃ a, x = .ok a ∧ f a = b := by
  cases x with
  | error e => exact ⟨fun h => (by cases h), fun ⟨_, h, _⟩ => (by cases h)⟩
  | ok a => exact ⟨fun h => ⟨a, rfl, (by cases h; rfl)⟩,
    fun ⟨_, h, hf⟩ => (by cases h; rw [← hf]; rfl)⟩

/-- A computation returns a value with a property, or it raises and a fact holds. -/
def Yields (result : Except ε α) (returned : α → Prop) (raised : Prop) : Prop :=
  match result with
  | .ok value => returned value
  | .error _ => raised

section Yields

variable {result : Except ε α} {returned : α → Prop} {raised : Prop}

/-- Two steps in a row yield what the second yields of the values of the first. -/
theorem Yields.bind {rest : α → Except ε β} {after : β → Prop} (h : Yields result returned raised)
    (hrest : ∀ value, returned value → Yields (rest value) after raised) :
    Yields (result >>= rest) after raised := by
  cases result with
  | ok value => exact hrest value h
  | error error => exact h

theorem Yields.mono {returned' : α → Prop} (h : Yields result returned raised)
    (himp : ∀ value, returned value → returned' value) : Yields result returned' raised := by
  cases result with
  | ok value => exact himp value h
  | error error => exact h

/-- A check yields that its condition does not hold, or the fact that its error stands for. -/
theorem yields_refuse {condition : Prop} [Decidable condition] {error : ε}
    (h : condition → raised) : Yields (refuse condition error) (fun _ => ¬ condition) raised := by
  unfold refuse
  split
  · next hcondition => exact h hcondition
  · next hcondition => exact hcondition

end Yields

/-- Read the items of a list in order, each with its index. -/
def traverse (read : Nat → α → Except ε β) : Nat → List α → Except ε (List β)
  | _, [] => pure []
  | index, item :: items => do
      let first ← read index item
      let rest ← traverse read (index + 1) items
      pure (first :: rest)

/-- Reading written items gives them back when each is read back. -/
theorem traverse_map_eq_ok {read : Nat → α → Except ε β} {write : β → α} {P : β → Prop}
    (hread : ∀ index item, read index (write item) = .ok item ↔ P item) {items : List β}
    {index : Nat} :
    traverse read index (items.map write) = .ok items ↔ ∀ item ∈ items, P item := by
  induction items generalizing index with
  | nil => simp [traverse]
  | cons item items ih =>
      rw [List.map_cons, traverse, bind_eq_ok, List.forall_mem_cons, ← hread index item, ← ih]
      constructor
      · rintro ⟨first, hfirst, htail⟩
        obtain ⟨rest, hrest, heq⟩ := bind_eq_ok.mp htail
        obtain ⟨rfl, rfl⟩ := List.cons.inj (pure_eq_ok.mp heq)
        exact ⟨hfirst, hrest⟩
      · rintro ⟨hfirst, hrest⟩
        exact ⟨item, hfirst, by rw [hrest]; rfl⟩

/-- A mapped sequence returns the results of its items, in order. -/
theorem mapM_eq_ok {f : α → Except ε β} {items : List α} {results : List β} :
    items.mapM f = .ok results ↔ List.Forall₂ (fun item result => f item = .ok result) items
      results := by
  induction items generalizing results with
  | nil =>
      rw [List.mapM_nil, pure_eq_ok]
      exact ⟨fun h => (by rw [← h]; exact .nil), fun h => (by cases h; rfl)⟩
  | cons item items ih =>
      rw [List.mapM_cons, bind_eq_ok]
      constructor
      · rintro ⟨first, hfirst, htail⟩
        obtain ⟨rest, hrest, heq⟩ := bind_eq_ok.mp htail
        rw [← pure_eq_ok.mp heq]
        exact .cons hfirst (ih.mp hrest)
      · intro h
        cases h with
        | cons hfirst hrest =>
            exact ⟨_, hfirst, bind_eq_ok.mpr ⟨_, ih.mpr hrest, rfl⟩⟩

/-- A mapped sequence returns when all of its items do. -/
theorem mapM_succeeds {f : α → Except ε β} {items : List α}
    (h : ∀ item ∈ items, ∃ result, f item = .ok result) :
    ∃ results, items.mapM f = .ok results := by
  induction items with
  | nil => exact ⟨[], rfl⟩
  | cons item items ih =>
      obtain ⟨result, hresult⟩ := h item List.mem_cons_self
      obtain ⟨results, hresults⟩ := ih fun other hother => h other (List.mem_cons_of_mem _ hother)
      exact ⟨result :: results, by rw [List.mapM_cons, hresult, hresults]; rfl⟩

/-- An item of the right list stands beside one of the left list. -/
theorem forall₂_exists_left {R : α → β → Prop} {xs : List α} {ys : List β}
    (h : List.Forall₂ R xs ys) {y : β} (hy : y ∈ ys) : ∃ x ∈ xs, R x y := by
  induction h with
  | nil => cases hy
  | cons hxy _ ih =>
      rcases List.mem_cons.mp hy with rfl | hy
      · exact ⟨_, List.mem_cons_self, hxy⟩
      · obtain ⟨x, hx, hxy⟩ := ih hy
        exact ⟨x, List.mem_cons_of_mem _ hx, hxy⟩

/-- An item of the left list stands beside one of the right list. -/
theorem forall₂_exists_right {R : α → β → Prop} {xs : List α} {ys : List β}
    (h : List.Forall₂ R xs ys) {x : α} (hx : x ∈ xs) : ∃ y ∈ ys, R x y := by
  obtain ⟨y, hy, hyx⟩ := forall₂_exists_left h.flip hx
  exact ⟨y, hy, hyx⟩

/-- A relation that determines a key of its left side keeps distinctness of the keys. -/
theorem forall₂_nodup {γ : Type} {R : α → β → Prop} {key : α → γ}
    (hinj : ∀ {a a' b}, R a b → R a' b → key a = key a') {xs : List α} {ys : List β}
    (h : List.Forall₂ R xs ys) (hnodup : (xs.map key).Nodup) : ys.Nodup := by
  induction h with
  | nil => exact List.nodup_nil
  | cons hxy hrest ih =>
      rw [List.map_cons, List.nodup_cons] at hnodup
      refine List.nodup_cons.mpr ⟨?_, ih hnodup.2⟩
      intro hmem
      obtain ⟨x', hx', hx'y⟩ := forall₂_exists_left hrest hmem
      exact hnodup.1 (hinj hxy hx'y ▸ List.mem_map_of_mem hx')

end Result
