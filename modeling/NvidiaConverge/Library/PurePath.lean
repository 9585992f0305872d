import NvidiaConverge.Library.Posix

/-!
# Pure paths

`PurePosixPath` as the library parses it: an anchor and the names below it, without empty names
and without `.`. `parse_path_text` and `text_rooted` connect it with the normalized absolute
paths of `Posix`.
-/

namespace Posix

/-- The anchor of a path: two slashes keep their meaning, three have that of one. -/
inductive Anchor where
  | relative
  | root
  | doubleSlash
  deriving DecidableEq

/-- `path.anchor`: the slashes that an absolute path starts with. -/
def Anchor.text : Anchor → String
  | .relative => ""
  | .root => "/"
  | .doubleSlash => "//"

/-- The anchor that a text starts with: exactly two slashes are kept, more count as one. -/
def anchorOf : List Char → Anchor
  | '/' :: '/' :: '/' :: _ => .root
  | '/' :: '/' :: _ => .doubleSlash
  | '/' :: _ => .root
  | _ => .relative

/-- `PurePosixPath`: its anchor and its names. -/
@[ext] structure PurePath where
  anchor : Anchor
  names : List String
  deriving DecidableEq

namespace PurePath

/-- `PurePosixPath(text)`: the anchor, and the names without empty ones and single points. -/
def parse (text : String) : PurePath where
  anchor := anchorOf text.toList
  names := ((splitOn '/' text.toList).map String.ofList).filter fun name =>
    name ≠ "" && name ≠ "."

/-- `str(path)`: the anchor and the joined names, and `.` for a path without either. -/
def text (path : PurePath) : String :=
  if path.anchor = .relative ∧ path.names = [] then "."
  else path.anchor.text ++ Text.join "/" path.names

/-- `path.is_absolute()`: the path has an anchor. -/
def isAbsolute (path : PurePath) : Bool :=
  path.anchor ≠ .relative

/-- `path.parent`: the path without its last name. -/
def parent (path : PurePath) : PurePath :=
  { path with names := path.names.dropLast }

/-- `path.name`: the last name, and the empty text for a path without names. -/
def name (path : PurePath) : String :=
  path.names.getLastD ""

/-- `path / segment`: an absolute segment replaces what stands before it. -/
def join (path : PurePath) (segment : String) : PurePath :=
  let other := parse segment
  if other.isAbsolute then other else { path with names := path.names ++ other.names }

/-- The path lies below the root, so that `path.relative_to(root)` does not raise. -/
def isRelativeTo (path root : PurePath) : Bool :=
  path.anchor = root.anchor && root.names.isPrefixOf path.names

/-- The path of normalized names below the root. -/
def rooted (names : List String) : PurePath where
  anchor := .root
  names := names

end PurePath

open PurePath

/-- Joining onto an absolute path gives an absolute path. -/
theorem join_is_absolute {path : PurePath} (h : path.isAbsolute = true) (segment : String) :
    (path.join segment).isAbsolute = true := by
  unfold PurePath.join
  by_cases hsegment : (parse segment).isAbsolute = true
  · simpa only [if_pos hsegment] using hsegment
  · simp only [if_neg hsegment]
    exact h

/-- A text that is a component of a path has no anchor. -/
theorem anchor_of_component {name : String} (h : isComponent name = true) :
    anchorOf name.toList = .relative := by
  have hslash := not_mem_of_is_component h
  unfold anchorOf
  split
  · next heq => simp [heq] at hslash
  · next heq => simp [heq] at hslash
  · next heq => simp [heq] at hslash
  · rfl

/-- A component survives the filter of a parsed path. -/
theorem component_kept {name : String} (h : isComponent name = true) :
    (name ≠ "" && name ≠ ".") = true := by
  simp only [isComponent, Bool.and_eq_true] at h
  simp only [Bool.and_eq_true]
  exact ⟨h.1.1.1, h.1.1.2⟩

/-- A name that is joined to a rooted path becomes its last name. -/
theorem rooted_join {name : String} (h : isComponent name = true) (names : List String) :
    (rooted names).join name = rooted (names ++ [name]) := by
  have hparse : parse name = { anchor := .relative, names := [name] } := by
    rw [parse, anchor_of_component h, split_on_self (not_mem_of_is_component h)]
    have hkept := component_kept h
    simp_all
  rw [PurePath.join, hparse]
  rfl

/-- The parent of a rooted path is the rooted path without the last name. -/
theorem rooted_parent (names : List String) : (rooted names).parent = rooted names.dropLast :=
  rfl

/-- The text of a normalized path is anchored at the root. -/
theorem anchor_of_path_text {components : List String} (h : components.all isComponent = true) :
    anchorOf (pathText components).toList = .root := by
  cases components with
  | nil => rfl
  | cons name names =>
      have hname : isComponent name = true := List.all_eq_true.mp h name (by simp)
      obtain ⟨c, tail, hchars⟩ := List.exists_cons_of_ne_nil (component_ne_nil hname)
      have hc : c ≠ '/' := by
        intro heq
        exact not_mem_of_is_component hname (by simp [hchars, heq])
      have htext : (pathText (name :: names)).toList =
          '/' :: c :: (tail ++ names.flatMap fun name => '/' :: name.toList) := by
        simp [pathText, hchars]
      rw [htext]
      unfold anchorOf
      split
      · next heq => simp_all
      · next heq => simp_all
      · rfl
      · next hno => exact absurd rfl (hno _)

/-- A normalized path is parsed into its components. -/
theorem parse_path_text {components : List String} (h : components.all isComponent = true) :
    parse (pathText components) = rooted components := by
  refine PurePath.ext (anchor_of_path_text h) ?_
  show _ = components
  cases components with
  | nil => rfl
  | cons name names =>
      have hkept : (name :: names).filter (fun name => name ≠ "" && name ≠ ".") =
          name :: names :=
        List.filter_eq_self.mpr fun other hother =>
          component_kept (List.all_eq_true.mp h other hother)
      rw [parse, split_on_path_text (List.cons_ne_nil name names) h, List.map_cons,
        map_of_list_to_list, List.filter_cons_of_neg (by decide), hkept]

/-- A slash before the joined names puts a slash before each of them. -/
theorem separator_join {names : List String} (hne : names ≠ []) :
    ("/" ++ Text.join "/" names).toList = names.flatMap fun name => '/' :: name.toList := by
  induction names with
  | nil => exact absurd rfl hne
  | cons name rest ih =>
      cases rest with
      | nil => simp [Text.join]
      | cons next more =>
          have hrest := ih (List.cons_ne_nil next more)
          rw [Text.join, List.flatMap_cons, ← hrest]
          · simp
          · exact fun hnil => List.cons_ne_nil next more hnil

/-- A rooted path is printed as the normalized path with the same names. -/
theorem text_rooted (names : List String) : (rooted names).text = pathText names := by
  have hroot : ¬ ((rooted names).anchor = .relative ∧ (rooted names).names = []) := by
    rintro ⟨hanchor, -⟩
    cases hanchor
  rw [PurePath.text, if_neg hroot]
  cases names with
  | nil => rfl
  | cons name rest =>
      refine String.toList_inj.mp ?_
      rw [pathText, String.toList_ofList]
      · exact separator_join (List.cons_ne_nil name rest)
      · exact fun hnil => List.cons_ne_nil name rest hnil

/-- The text of an absolute path starts with the separator. -/
theorem absolute_text_head {path : PurePath} (h : path.isAbsolute = true) :
    path.text.toList.head? = some '/' := by
  have hanchor : path.anchor ≠ .relative := of_decide_eq_true h
  rw [PurePath.text, if_neg fun hboth => hanchor hboth.1]
  cases hcase : path.anchor with
  | relative => exact absurd hcase hanchor
  | root => simp [Anchor.text]
  | doubleSlash => simp [Anchor.text]

/-- A text that does not start with the separator is relative. -/
theorem parse_relative {text : String} (h : text.toList.head? ≠ some '/') :
    (parse text).isAbsolute = false := by
  have hanchor : anchorOf text.toList = .relative := by
    cases hchars : text.toList with
    | nil => rfl
    | cons c rest =>
        rw [hchars] at h
        unfold anchorOf
        split
        · next heq => simp_all
        · next heq => simp_all
        · next heq => simp_all
        · rfl
  simp [PurePath.isAbsolute, parse, hanchor]

end Posix
