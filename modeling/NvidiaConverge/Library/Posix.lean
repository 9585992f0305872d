import NvidiaConverge.Library.Text

/-!
# POSIX paths

Absolute normalized paths as lists of components, their text, and the two ways of reading a
text: `PurePath`, which drops empty and `.` components, and the strict reading that accepts
normalized text only. `path_components_text` reads a path's text back.
-/

namespace Posix

/-- `s.split(sep)` on code points: the pieces between the separators, empty ones included. -/
def splitOn (sep : Char) : List Char → List (List Char)
  | [] => [[]]
  | c :: rest =>
      match splitOn sep rest with
      | [] => [[c]]
      | first :: more => if c = sep then [] :: first :: more else (c :: first) :: more

/-- The text can be a component of a normalized path: no separator, and neither `.` nor `..`. -/
def isComponent (name : String) : Bool :=
  name ≠ "" && name ≠ "." && name ≠ ".." && !name.toList.contains '/'

/-- The text of an absolute path: each component behind a slash, and `/` for the root. -/
def pathText (components : List String) : String :=
  match components with
  | [] => "/"
  | _ => String.ofList (components.flatMap fun name => '/' :: name.toList)

/-- The components of normalized absolute text. -/
def components? (text : String) : Option (List String) :=
  match splitOn '/' text.toList with
  | [] :: [[]] => some []
  | [] :: pieces =>
      let names := pieces.map String.ofList
      if names.all isComponent then some names else none
  | _ => none

/-- `PurePosixPath(text).parts` below the root `/`; other anchors have no reading. -/
def pathComponents (text : String) : Option (List String) :=
  match text.toList with
  | '/' :: rest =>
      if rest.head? = some '/' ∧ rest.tail.head? ≠ some '/' then none
      else
        some (((splitOn '/' rest).map String.ofList).filter fun name => name ≠ "" && name ≠ ".")
  | _ => none

/-- An absolute normalized path: what `os.path.abspath` returns. -/
structure AbsolutePath where
  components : List String
  normalized : components.all isComponent = true
  deriving DecidableEq

namespace AbsolutePath

/-- `str(path)`: the text of a normalized absolute path. -/
def text (path : AbsolutePath) : String :=
  pathText path.components

/-- `path.parent`: the components without the last one. -/
def parent (path : AbsolutePath) : List String :=
  path.components.dropLast

/-- `path.name`: the last component, and the empty text for the root. -/
def name (path : AbsolutePath) : String :=
  path.components.getLastD ""

end AbsolutePath

/-- A text is split into at least one piece. -/
theorem split_on_ne_nil {sep : Char} {cs : List Char} : splitOn sep cs ≠ [] := by
  cases cs with
  | nil => simp [splitOn]
  | cons c rest =>
      rw [splitOn]
      split
      · simp
      · split <;> simp

/-- A piece without the separator is split off whole. -/
theorem split_on_append {sep : Char} {piece : List Char} (rest : List Char) (h : sep ∉ piece) :
    splitOn sep (piece ++ sep :: rest) = piece :: splitOn sep rest := by
  induction piece with
  | nil =>
      rw [List.nil_append, splitOn]
      cases hs : splitOn sep rest with
      | nil => exact absurd hs split_on_ne_nil
      | cons first more => simp
  | cons c piece ih =>
      have hc : c ≠ sep := fun heq => h (by simp [heq])
      rw [List.cons_append, splitOn, ih fun hmem => h (List.mem_cons_of_mem _ hmem)]
      simp [hc]

/-- A text without the separator is its own only piece. -/
theorem split_on_self {sep : Char} {piece : List Char} (h : sep ∉ piece) :
    splitOn sep piece = [piece] := by
  induction piece with
  | nil => rfl
  | cons c piece ih =>
      have hc : c ≠ sep := fun heq => h (by simp [heq])
      rw [splitOn, ih fun hmem => h (List.mem_cons_of_mem _ hmem)]
      simp [hc]

/-- A component contains no separator, so that it is never split. -/
theorem not_mem_of_is_component {name : String} (h : isComponent name = true) :
    '/' ∉ name.toList := by
  simp only [isComponent, Bool.and_eq_true, Bool.not_eq_true', List.contains_eq_mem,
    decide_eq_false_iff_not] at h
  exact h.2

/-- The text of nonempty components splits into them behind the empty first piece. -/
theorem split_on_path_text {components : List String} (hne : components ≠ [])
    (h : components.all isComponent = true) :
    splitOn '/' (pathText components).toList = [] :: components.map String.toList := by
  have hpieces : ∀ names : List String, names.all isComponent = true →
      splitOn '/' (names.flatMap fun name => '/' :: name.toList) =
        [] :: names.map String.toList := by
    intro names hnames
    induction names with
    | nil => rfl
    | cons name names ih =>
        obtain ⟨hname, hrest⟩ : isComponent name = true ∧ names.all isComponent = true := by
          simpa using hnames
        have hmem := not_mem_of_is_component hname
        -- The empty piece before the first separator, then the name up to the next one.
        have hsplit : splitOn '/' (name.toList ++
            names.flatMap fun name => '/' :: name.toList) =
            name.toList :: names.map String.toList := by
          cases names with
          | nil => simpa using split_on_self hmem
          | cons next names =>
              have hih := ih hrest
              simp only [List.flatMap_cons, List.cons_append] at hih ⊢
              rw [split_on_append _ hmem]
              have hcons := @split_on_append '/' []
                (next.toList ++ names.flatMap fun name => '/' :: name.toList) (by simp)
              rw [List.nil_append, hih] at hcons
              rw [(List.cons.inj hcons).2]
        have hfirst := @split_on_append '/' []
          (name.toList ++ names.flatMap fun name => '/' :: name.toList) (by simp)
        rw [List.nil_append, hsplit] at hfirst
        simpa using hfirst
  cases components with
  | nil => exact absurd rfl hne
  | cons name names =>
      simp only [pathText, String.toList_ofList]
      exact hpieces _ h

/-- A component has at least one character. -/
theorem component_ne_nil {name : String} (h : isComponent name = true) : name.toList ≠ [] := by
  intro hnil
  have hname : name = "" := String.toList_inj.mp hnil
  simp [isComponent, hname] at h

/-- Components survive the way over code points. -/
theorem map_of_list_to_list (names : List String) :
    (names.map String.toList).map String.ofList = names := by
  simp [Function.comp_def]

/-- The strict reading gives a path's components back. -/
theorem components_path_text {components : List String} (h : components.all isComponent = true) :
    components? (pathText components) = some components := by
  cases components with
  | nil => rfl
  | cons name names =>
      have hsplit := split_on_path_text (List.cons_ne_nil name names) h
      have hne : name.toList ≠ [] := component_ne_nil (by simp_all)
      have hback := map_of_list_to_list (name :: names)
      rw [List.map_cons] at hsplit hback
      unfold components?
      rw [hsplit]
      split
      · next heq => simp_all
      · next heq =>
          obtain ⟨-, rfl⟩ := List.cons.inj heq
          simp only [hback, h, if_true]
      · next hno => exact absurd rfl (hno _)

/-- `PurePath` keeps every component of a normalized path. -/
theorem path_components_path_text {components : List String}
    (h : components.all isComponent = true) :
    pathComponents (pathText components) = some components := by
  cases components with
  | nil => rfl
  | cons name names =>
      have hsplit := split_on_path_text (List.cons_ne_nil name names) h
      have hall : ∀ other ∈ name :: names, isComponent other = true := by simpa using h
      obtain ⟨c, tail, hname⟩ := List.exists_cons_of_ne_nil
        (component_ne_nil (hall name (by simp)))
      have hc : c ≠ '/' := by
        intro heq
        exact not_mem_of_is_component (hall name (by simp)) (by simp [hname, heq])
      obtain ⟨rest, hrest⟩ : ∃ rest, (pathText (name :: names)).toList = '/' :: c :: rest := by
        simp [pathText, hname]
      rw [hrest, splitOn] at hsplit
      have hpieces : splitOn '/' (c :: rest) = (name :: names).map String.toList := by
        cases hs : splitOn '/' (c :: rest) with
        | nil => exact absurd hs split_on_ne_nil
        | cons first more =>
            rw [hs] at hsplit
            simpa using hsplit
      have hkeep : (name :: names).filter (fun name => name ≠ "" && name ≠ ".") =
          name :: names := by
        rw [List.filter_eq_self]
        intro other hother
        have hcomponent := hall other hother
        simp only [isComponent, Bool.and_eq_true] at hcomponent
        simp only [Bool.and_eq_true]
        exact ⟨hcomponent.1.1.1, hcomponent.1.1.2⟩
      have hroot : ¬ ((c :: rest).head? = some '/' ∧ (c :: rest).tail.head? ≠ some '/') := by
        simp [hc]
      unfold pathComponents
      rw [hrest]
      simp only [if_neg hroot, hpieces, map_of_list_to_list, hkeep]

/-- `PurePath(str(path))` has the path's components. -/
theorem AbsolutePath.path_components_text (path : AbsolutePath) :
    pathComponents path.text = some path.components :=
  path_components_path_text path.normalized

end Posix
