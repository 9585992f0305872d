import NvidiaConverge.Rollback.ModuleGraph

/-!
# The unload order of a module tree

`/sys/module` as one tree, and what `nvidia_module_unload_order` makes of it. `visit_yields` is
the step of the depth-first walk: it goes on with every holder before the module it holds, or the
tree has a defect. `unload_order_exact` is the result for the whole walk, and
`unload_order_enumeration` says that the order in which directories list their entries is not seen.
-/

namespace NvidiaConverge

open Relation (ReflTransGen TransGen)
open Result (Yields yields_refuse)

/-! ## Trees -/

/-- An entry of `/sys/module`; a directory has a `holders` entry, which may fail to list. -/
inductive SysEntry where
  | directory (holders : Except String (List String))
  | notDirectory
  | dangling (reason : String)

/-- `/sys/module`, its entries in the order in which they are listed. -/
structure SysTree where
  entries : List (String × SysEntry)
  distinct : (entries.map Prod.fst).Nodup

namespace SysTree

variable (tree : SysTree)

/-- The entry of the tree under a name, if it is listed. -/
def entry (name : String) : Option SysEntry :=
  tree.entries.lookup name

/-- The tree as the code reads it: its listing, its directories and their holders. -/
def read : SysModules where
  names := .ok (tree.entries.map Prod.fst)
  isDirectory name :=
    match tree.entry name with
    | none => .error "No such file or directory"
    | some (.dangling reason) => .error reason
    | some .notDirectory => .ok false
    | some (.directory _) => .ok true
  holders name :=
    match tree.entry name with
    | some (.directory holders) => holders
    | some .notDirectory => .error "Not a directory"
    | some (.dangling reason) => .error reason
    | none => .error "No such file or directory"

/-- A module that the tree lists as loaded. -/
def Loaded (name : String) : Prop :=
  name ∈ tree.entries.map Prod.fst

/-- A module that stands among the holders of another. -/
def Holds (holder module : String) : Prop :=
  ∃ names, tree.entry module = some (.directory (.ok names)) ∧ holder ∈ names

/-- The step from a module to one that holds it. -/
def HeldBy (module holder : String) : Prop :=
  tree.Holds holder module

/-- What the holder relation reaches from the loaded NVIDIA modules. -/
def Reachable (name : String) : Prop :=
  ∃ root ∈ knownNvidiaModules, tree.Loaded root ∧ ReflTransGen tree.HeldBy root name

/-- What makes a tree unsafe to unload: a cycle, an unknown holder or an entry that cannot be
read. -/
inductive Defective : Prop where
  | cycle (name : String) (reachable : tree.Reachable name)
      (cyclic : TransGen tree.HeldBy name name)
  | unknownHolder (name : String) (reachable : tree.Reachable name)
      (unknown : name ∉ knownNvidiaModules)
  | noDirectory (name : String) (reachable : tree.Reachable name)
      (missing : ∀ holders, tree.entry name ≠ some (.directory holders))
  | noHolders (name : String) (reachable : tree.Reachable name) (reason : String)
      (missing : tree.entry name = some (.directory (.error reason)))

/-- The loaded modules of the tree that are NVIDIA's. -/
def nvidia : List String :=
  knownNvidiaModules.filter ((tree.entries.map Prod.fst).contains ·)

variable {tree} {module name : String}

theorem mem_nvidia : module ∈ tree.nvidia ↔ module ∈ knownNvidiaModules ∧ tree.Loaded module := by
  rw [nvidia, List.mem_filter, List.contains_iff_mem]
  rfl

/-- A module with an entry is listed. -/
theorem loaded_of_entry {entry : SysEntry} (h : tree.entry name = some entry) :
    tree.Loaded name := by
  obtain ⟨before, after, hsplit, _⟩ := List.lookup_eq_some_iff.mp h
  rw [Loaded, hsplit]
  simp

/-- A loaded NVIDIA module is where the graph starts. -/
theorem reachable_of_mem (h : module ∈ tree.nvidia) : tree.Reachable module :=
  ⟨module, (mem_nvidia.mp h).1, (mem_nvidia.mp h).2, .refl⟩

theorem Reachable.tail {holder : String} (h : tree.Reachable module)
    (hholds : tree.Holds holder module) :
    tree.Reachable holder := by
  obtain ⟨root, hroot, hloaded, hpath⟩ := h
  exact ⟨root, hroot, hloaded, hpath.tail hholds⟩

/-- The check of a reachable entry passes on a directory, and fails on a defective tree only. -/
theorem yields_require_directory (h : tree.Reachable name) :
    Yields (tree.read.requireDirectory name)
      (fun _ => ∃ holders, tree.entry name = some (.directory holders)) tree.Defective := by
  unfold SysModules.requireDirectory
  have hbad : (∀ holders, tree.entry name ≠ some (.directory holders)) → tree.Defective :=
    fun hmissing => .noDirectory name h hmissing
  cases hentry : tree.entry name with
  | none =>
      have hstat : tree.read.isDirectory name = .error "No such file or directory" := by
        simp only [read, hentry]
      rw [hstat]
      exact hbad (by simp [hentry])
  | some entry =>
      cases entry with
      | dangling reason =>
          have hstat : tree.read.isDirectory name = .error reason := by simp only [read, hentry]
          rw [hstat]
          exact hbad (by simp [hentry])
      | notDirectory =>
          have hstat : tree.read.isDirectory name = .ok false := by simp only [read, hentry]
          rw [hstat]
          exact hbad (by simp [hentry])
      | directory holders =>
          have hstat : tree.read.isDirectory name = .ok true := by simp only [read, hentry]
          rw [hstat]
          exact ⟨holders, rfl⟩

/-- Holders that could be listed are those of a directory. -/
theorem entry_of_holders {names : List String} (h : tree.read.holders module = .ok names) :
    tree.entry module = some (.directory (.ok names)) := by
  unfold read at h
  dsimp only at h
  split at h
  · next hentry => rw [hentry, h]
  · cases h
  · cases h
  · cases h

/-- A tree in which holders cannot be listed is defective. -/
theorem defective_of_holders_error {reason : String} (h : tree.Reachable module)
    (hholders : tree.read.holders module = .error reason) : tree.Defective := by
  unfold read at hholders
  dsimp only at hholders
  split at hholders
  · next hentry => exact .noHolders module h reason (hholders ▸ hentry)
  · next hentry => exact .noDirectory module h (by simp [hentry])
  · next hentry => exact .noDirectory module h (by simp [hentry])
  · next hentry => exact .noDirectory module h (by simp [hentry])

/-! ## One visit -/

/-- What holds between two visits: what has been emitted are loaded modules with readable holders,
each behind everything that holds it. -/
structure Follows (tree : SysTree) (walk : Walk) : Prop where
  loaded : walk.loaded = tree.nvidia
  member : ∀ module ∈ walk.ordered, module ∈ tree.nvidia
  readable : ∀ module ∈ walk.ordered, ∃ names, tree.entry module = some (.directory (.ok names))
  closed : ∀ before module after, walk.ordered = before ++ module :: after →
    ∀ holder, tree.Holds holder module → holder ∈ before

/-- One more module, whose holders have been emitted. -/
theorem Follows.snoc {walk : Walk} {names visiting : List String} (h : tree.Follows walk)
    (hmodule : module ∈ tree.nvidia) (hentry : tree.entry module = some (.directory (.ok names)))
    (hholders : ∀ holder ∈ names, holder ∈ walk.ordered) :
    tree.Follows
      { walk with visiting := visiting, ordered := walk.ordered ++ [module] } where
  loaded := h.loaded
  member := by
    intro other hother
    rcases List.mem_append.mp hother with hother | hother
    · exact h.member other hother
    · rw [List.mem_singleton.mp hother]
      exact hmodule
  readable := by
    intro other hother
    rcases List.mem_append.mp hother with hother | hother
    · exact h.readable other hother
    · rw [List.mem_singleton.mp hother]
      exact ⟨names, hentry⟩
  closed := by
    intro before other after hsplit holder hholds
    rcases List.eq_nil_or_concat after with rfl | ⟨rest, last, rfl⟩
    · obtain ⟨hbefore, hlast⟩ := List.append_inj' hsplit rfl
      obtain rfl := List.head_eq_of_cons_eq hlast
      obtain ⟨held, hheld, hmem⟩ := hholds
      rw [hentry] at hheld
      cases hheld
      exact hbefore ▸ hholders holder hmem
    · rw [List.concat_eq_append, ← List.cons_append, ← List.append_assoc] at hsplit
      exact h.closed before other rest (List.append_inj' hsplit rfl).1 holder hholds

/-- Where a visit starts: the modules on the path are distinct, each is held, in steps, by the
module that is visited, and the fuel is more than what is left of the known modules. -/
structure Enters (tree : SysTree) (fuel : Nat) (walk : Walk) (module : String) : Prop where
  follows : tree.Follows walk
  nodup : walk.visiting.Nodup
  known : ∀ other ∈ walk.visiting, other ∈ knownNvidiaModules
  path : ∀ other ∈ walk.visiting, TransGen tree.HeldBy other module
  fuel : knownNvidiaModules.length < fuel + walk.visiting.length

/-- How a visit that returns leaves the walk: with more in order and the same path. -/
structure Leaves (tree : SysTree) (walk walk' : Walk) : Prop where
  follows : tree.Follows walk'
  visiting : walk'.visiting = walk.visiting
  grows : walk.ordered <+: walk'.ordered

/-- The holders of a module that is on the path, one after the other. -/
theorem holders_yield {fuel : Nat}
    (ih : ∀ {walk : Walk} {module : String}, tree.Enters fuel walk module →
      Yields (tree.read.visit fuel walk module)
        (fun walk' => tree.Leaves walk walk' ∧ (module ∈ tree.nvidia → module ∈ walk'.ordered))
        tree.Defective)
    (hmodule : module ∈ tree.nvidia) (names : List String)
    (hnames : ∀ holder ∈ names, holder ∈ knownNvidiaModules ∧ tree.Holds holder module)
    {walk : Walk} (henters : ∀ holder ∈ names, tree.Enters fuel walk holder)
    (hfollows : tree.Follows walk) :
    Yields (names.foldlM (fun walk holder => do
        tree.read.requireDirectory holder
        tree.read.visit fuel { walk with loaded := walk.loaded.insert holder } holder) walk)
      (fun walk' => tree.Leaves walk walk' ∧ ∀ holder ∈ names, holder ∈ walk'.ordered)
      tree.Defective := by
  induction names generalizing walk with
  | nil => exact ⟨⟨hfollows, rfl, List.prefix_refl _⟩, fun holder hholder => by cases hholder⟩
  | cons holder names ihNames =>
      rw [List.foldlM_cons]
      obtain ⟨hknown, hholds⟩ := hnames holder List.mem_cons_self
      have hreachable := (reachable_of_mem hmodule).tail hholds
      have hstep : Yields
          (do
            tree.read.requireDirectory holder
            tree.read.visit fuel { walk with loaded := walk.loaded.insert holder } holder)
          (fun walk' => tree.Leaves walk walk' ∧ holder ∈ walk'.ordered) tree.Defective := by
        refine (yields_require_directory hreachable).bind fun _ hdirectory => ?_
        obtain ⟨_, hentry⟩ := hdirectory
        have hmem : holder ∈ tree.nvidia := mem_nvidia.mpr ⟨hknown, loaded_of_entry hentry⟩
        -- a holder that is a directory is listed, so that it is loaded already
        have hinsert : walk.loaded.insert holder = walk.loaded := by
          rw [hfollows.loaded]
          exact List.insert_of_mem hmem
        rw [hinsert]
        exact (ih (henters holder List.mem_cons_self)).mono fun walk' h => ⟨h.1, h.2 hmem⟩
      refine hstep.bind fun middle hmiddle => ?_
      obtain ⟨hleaves, hholder⟩ := hmiddle
      have hrest : ∀ other ∈ names, tree.Enters fuel middle other := by
        intro other hother
        have h := henters other (List.mem_cons_of_mem _ hother)
        exact
          { follows := hleaves.follows
            nodup := hleaves.visiting ▸ h.nodup
            known := hleaves.visiting ▸ h.known
            path := hleaves.visiting ▸ h.path
            fuel := hleaves.visiting ▸ h.fuel }
      refine (ihNames (fun other hother => hnames other (List.mem_cons_of_mem _ hother)) hrest
        hleaves.follows).mono fun last hlast => ?_
      obtain ⟨hlastLeaves, hothers⟩ := hlast
      refine ⟨⟨hlastLeaves.follows, hlastLeaves.visiting.trans hleaves.visiting,
        hleaves.grows.trans hlastLeaves.grows⟩, fun other hother => ?_⟩
      rcases List.mem_cons.mp hother with rfl | hother
      · exact hlastLeaves.grows.subset hholder
      · exact hothers other hother

/-- One visit: by induction on the fuel, which is never used up. -/
theorem visit_yields {fuel : Nat} {walk : Walk} (h : tree.Enters fuel walk module) :
    Yields (tree.read.visit fuel walk module)
      (fun walk' => tree.Leaves walk walk' ∧ (module ∈ tree.nvidia → module ∈ walk'.ordered))
      tree.Defective := by
  induction fuel generalizing walk module with
  | zero =>
      -- the path cannot hold more modules than there are
      have hlength := (List.subperm_of_subset h.nodup h.known).length_le
      have hfuel := h.fuel
      omega
  | succ fuel ih =>
      rw [SysModules.visit]
      split
      · next hdone =>
          refine ⟨⟨h.follows, rfl, List.prefix_refl _⟩, fun hmodule => ?_⟩
          exact hdone.resolve_right fun hloaded => hloaded (h.follows.loaded ▸ hmodule)
      · next hnew =>
          rw [not_or, not_not, h.follows.loaded] at hnew
          have hreachable := reachable_of_mem hnew.2
          split
          · next hvisiting => exact .cycle module hreachable (h.path module hvisiting)
          · next hpath =>
              split
              · next reason hholders => exact defective_of_holders_error hreachable hholders
              · next names hholders =>
                  have hentry := entry_of_holders hholders
                  have hholds : ∀ holder ∈ sorted names, tree.Holds holder module :=
                    fun holder hholder => ⟨names, hentry, by simpa [sorted] using hholder⟩
                  refine (yields_refuse fun hunknown => ?_).bind fun _ hknown => ?_
                  · obtain ⟨holder, hholder⟩ := List.exists_mem_of_ne_nil _ hunknown
                    rw [List.mem_filter, decide_eq_true_eq] at hholder
                    exact .unknownHolder holder
                      (hreachable.tail (hholds holder hholder.1)) hholder.2
                  · rw [not_not, List.filter_eq_nil_iff] at hknown
                    have hnames : ∀ holder ∈ sorted names,
                        holder ∈ knownNvidiaModules ∧ tree.Holds holder module :=
                      fun holder hholder =>
                        ⟨by simpa using hknown holder hholder, hholds holder hholder⟩
                    -- the module joins the path of each of its holders
                    have henters : ∀ holder ∈ sorted names,
                        tree.Enters fuel { walk with visiting := module :: walk.visiting } holder :=
                      fun holder hholder =>
                        { follows := ⟨h.follows.loaded, h.follows.member, h.follows.readable,
                            h.follows.closed⟩
                          nodup := List.nodup_cons.mpr ⟨hpath, h.nodup⟩
                          known := List.forall_mem_cons.mpr
                            ⟨(mem_nvidia.mp hnew.2).1, h.known⟩
                          path := List.forall_mem_cons.mpr
                            ⟨.single (hholds holder hholder), fun other hother =>
                              (h.path other hother).tail (hholds holder hholder)⟩
                          fuel := by
                            have hfuel := h.fuel
                            rw [List.length_cons]
                            omega }
                    refine (holders_yield ih hnew.2 _ hnames henters
                      ⟨h.follows.loaded, h.follows.member, h.follows.readable,
                        h.follows.closed⟩).bind fun last hlast => ?_
                    obtain ⟨hleaves, hemitted⟩ := hlast
                    have hall : ∀ holder ∈ names, holder ∈ last.ordered :=
                      fun holder hholder => hemitted holder (by simpa [sorted] using hholder)
                    refine ⟨⟨hleaves.follows.snoc hnew.2 hentry hall, ?_, ?_⟩, fun _ => ?_⟩
                    · show last.visiting.erase module = walk.visiting
                      rw [hleaves.visiting, List.erase_cons_head]
                    · exact hleaves.grows.trans (List.prefix_append ..)
                    · exact List.mem_append_right _ List.mem_cons_self

/-! ## The whole walk -/

/-- A walk may enter any module from an empty path. -/
theorem enters_of_nil {walk : Walk} (hfollows : tree.Follows walk)
    (hvisiting : walk.visiting = []) :
    tree.Enters (knownNvidiaModules.length + 1) walk module where
  follows := hfollows
  nodup := hvisiting ▸ List.nodup_nil
  known := hvisiting ▸ fun other hother => by cases hother
  path := hvisiting ▸ fun other hother => by cases hother
  fuel := by omega

/-- The visits of a list of modules from an empty path. -/
theorem visits_yield (modules : List String) {walk : Walk} (hfollows : tree.Follows walk)
    (hvisiting : walk.visiting = []) :
    Yields (modules.foldlM (tree.read.visit (knownNvidiaModules.length + 1)) walk)
      (fun walk' => tree.Leaves walk walk' ∧
        ∀ module ∈ modules, module ∈ tree.nvidia → module ∈ walk'.ordered) tree.Defective := by
  induction modules generalizing walk with
  | nil => exact ⟨⟨hfollows, rfl, List.prefix_refl _⟩, fun module hmodule => by cases hmodule⟩
  | cons module modules ih =>
      rw [List.foldlM_cons]
      refine (visit_yields (enters_of_nil hfollows hvisiting)).bind fun middle hmiddle => ?_
      obtain ⟨hleaves, hmodule⟩ := hmiddle
      refine (ih hleaves.follows (hleaves.visiting.trans hvisiting)).mono fun last hlast => ?_
      obtain ⟨hlastLeaves, hothers⟩ := hlast
      refine ⟨⟨hlastLeaves.follows, hlastLeaves.visiting.trans hleaves.visiting,
        hleaves.grows.trans hlastLeaves.grows⟩, fun other hother hmem => ?_⟩
      rcases List.mem_cons.mp hother with rfl | hother
      · exact hlastLeaves.grows.subset (hmodule hmem)
      · exact hothers other hother hmem

/-- A complete order of a tree: every loaded NVIDIA module once, behind everything that holds it. -/
structure UnloadOrder (tree : SysTree) (order : List String) : Prop where
  nodup : order.Nodup
  complete : ∀ module, module ∈ order ↔ module ∈ knownNvidiaModules ∧ tree.Loaded module
  holdersFirst : ∀ before module after, order = before ++ module :: after →
    ∀ holder, tree.Holds holder module → holder ∈ before

/-- The checks before the walk pass, or the tree is defective. -/
theorem checks_yield (modules : List String) (h : ∀ module ∈ modules, module ∈ tree.nvidia) :
    Yields (modules.forM tree.read.requireDirectory) (fun _ => True) tree.Defective := by
  induction modules with
  | nil => trivial
  | cons module modules ih =>
      show Yields (tree.read.requireDirectory module >>= fun _ =>
        modules.forM tree.read.requireDirectory) _ _
      exact (yields_require_directory (reachable_of_mem (h module List.mem_cons_self))).bind
        fun _ _ => ih fun other hother => h other (List.mem_cons_of_mem _ hother)

/-- The unload order of a tree: the checks of its modules, and then one walk over them. -/
theorem unload_order_eq (tree : SysTree) :
    nvidiaModuleUnloadOrder tree.read =
      (do
        tree.nvidia.forM tree.read.requireDirectory
        if tree.nvidia = [] then pure []
        else do
          let walk ← tree.read.visit (knownNvidiaModules.length + 1)
            { loaded := tree.nvidia, visiting := [], ordered := [] } "nvidia"
          let walk ← (sorted walk.loaded).foldlM
            (tree.read.visit (knownNvidiaModules.length + 1)) walk
          pure walk.ordered) :=
  rfl

/-- The function returns an order that the walk follows, or the tree has a defect. -/
theorem unload_order_yields :
    Yields (nvidiaModuleUnloadOrder tree.read)
      (fun order => ∃ walk, walk.ordered = order ∧ tree.Follows walk ∧
        ∀ module ∈ tree.nvidia, module ∈ order) tree.Defective := by
  have hstart : tree.Follows { loaded := tree.nvidia, visiting := [], ordered := [] } :=
    { loaded := rfl
      member := fun module hmodule => by cases hmodule
      readable := fun module hmodule => by cases hmodule
      closed := fun before module after hsplit => by simp at hsplit }
  rw [unload_order_eq]
  refine (checks_yield tree.nvidia fun module hmodule => hmodule).bind fun _ _ => ?_
  split
  · next hnone =>
      exact ⟨_, rfl, hstart, fun module hmodule => by
        rw [hnone] at hmodule
        exact hmodule⟩
  · refine Yields.bind (visit_yields (enters_of_nil hstart rfl)) fun first hfirst => ?_
    refine (visits_yield (sorted first.loaded) hfirst.1.follows hfirst.1.visiting).bind
      fun last hlast => ?_
    refine ⟨last, rfl, hlast.1.follows, fun module hmodule => hlast.2 module ?_ hmodule⟩
    simpa [sorted, hfirst.1.follows.loaded] using hmodule

/-- Whoever holds an emitted module stands before it. -/
theorem Follows.index_lt {walk : Walk} {holder : String} (h : tree.Follows walk)
    (hmodule : module ∈ walk.ordered) (hholds : tree.Holds holder module) :
    holder ∈ walk.ordered ∧ walk.ordered.idxOf holder < walk.ordered.idxOf module := by
  obtain ⟨before, after, hsplit, hfirst⟩ := List.eq_append_cons_of_mem hmodule
  have hmem := h.closed before module after hsplit holder hholds
  rw [hsplit, List.idxOf_append_of_mem hmem, List.idxOf_append_of_notMem hfirst,
    List.idxOf_cons_self]
  have hlt := List.idxOf_lt_length_iff.mpr hmem
  exact ⟨List.mem_append_left _ hmem, by omega⟩

/-- A walk that has emitted every loaded NVIDIA module shows that the tree has no defect. -/
theorem Follows.not_defective {walk : Walk} (h : tree.Follows walk)
    (hall : ∀ module ∈ tree.nvidia, module ∈ walk.ordered) : ¬ tree.Defective := by
  have hreachable : ∀ name, tree.Reachable name → name ∈ walk.ordered := by
    rintro name ⟨root, hroot, hloaded, hpath⟩
    induction hpath with
    | refl => exact hall root (mem_nvidia.mpr ⟨hroot, hloaded⟩)
    | tail _ hholds ih => exact (h.index_lt ih hholds).1
  have hcycle : ∀ {start name : String}, start ∈ walk.ordered → TransGen tree.HeldBy start name →
      name ∈ walk.ordered ∧ walk.ordered.idxOf name < walk.ordered.idxOf start := by
    intro start name hstart hpath
    induction hpath with
    | single hholds => exact h.index_lt hstart hholds
    | tail _ hholds ih =>
        have hnext := h.index_lt ih.1 hholds
        exact ⟨hnext.1, hnext.2.trans ih.2⟩
  intro hdefective
  cases hdefective with
  | cycle name hname hcyclic => exact Nat.lt_irrefl _ (hcycle (hreachable name hname) hcyclic).2
  | unknownHolder name hname hunknown =>
      exact hunknown (mem_nvidia.mp (h.member name (hreachable name hname))).1
  | noDirectory name hname hmissing =>
      obtain ⟨names, hentry⟩ := h.readable name (hreachable name hname)
      exact hmissing _ hentry
  | noHolders name hname reason hmissing =>
      obtain ⟨names, hentry⟩ := h.readable name (hreachable name hname)
      rw [hentry] at hmissing
      cases hmissing

/-! ## Enumeration -/

/-- Entries that differ at most in the order in which `holders` lists. -/
inductive SameEntry : SysEntry → SysEntry → Prop where
  | holders {names other : List String} (h : names.Perm other) :
      SameEntry (.directory (.ok names)) (.directory (.ok other))
  | same (entry : SysEntry) : SameEntry entry entry

/-- Trees that differ at most in the order in which directories list their entries. -/
structure Reordered (tree other : SysTree) : Prop where
  entries : ∀ name entry, tree.entry name = some entry →
    ∃ entry', other.entry name = some entry' ∧ SameEntry entry entry'
  absent : ∀ name, tree.entry name = none → other.entry name = none

end SysTree

/-- Two ways of reading modules that differ at most in the order of holders. -/
theorem visit_congr {sys other : SysModules}
    (hdirectory : ∀ name, other.isDirectory name = sys.isDirectory name)
    (hholders : ∀ name, (sorted <$> other.holders name) = (sorted <$> sys.holders name))
    (fuel : Nat) : other.visit fuel = sys.visit fuel := by
  induction fuel with
  | zero => rfl
  | succ fuel ih =>
      have hrequire : other.requireDirectory = sys.requireDirectory := by
        funext name
        rw [SysModules.requireDirectory, SysModules.requireDirectory, hdirectory]
      funext walk module
      rw [SysModules.visit, SysModules.visit, ih, hrequire]
      have hnames := hholders module
      cases hother : other.holders module with
      | error reason =>
          cases hsys : sys.holders module with
          | error reason' =>
              rw [hother, hsys] at hnames
              cases hnames
              rfl
          | ok names =>
              rw [hother, hsys] at hnames
              cases hnames
      | ok names' =>
          cases hsys : sys.holders module with
          | error reason' =>
              rw [hother, hsys] at hnames
              cases hnames
          | ok names =>
              rw [hother, hsys] at hnames
              have hsorted : sorted names' = sorted names := Except.ok.inj hnames
              simp only [hsorted]

namespace SysTree

variable {tree other : SysTree}

theorem Reordered.names (h : Reordered tree other) (name : String) :
    other.Loaded name ↔ tree.Loaded name := by
  have hloaded : ∀ (some : SysTree), some.Loaded name ↔ some.entry name ≠ none := by
    intro some
    rw [entry, Ne, List.lookup_eq_none_iff]
    simp [Loaded]
  rw [hloaded, hloaded]
  cases hentry : tree.entry name with
  | none => simp [h.absent name hentry]
  | some entry =>
      obtain ⟨entry', hentry', _⟩ := h.entries name entry hentry
      simp [hentry']

/-- The function does not see in which order directories list their entries. -/
theorem unload_order_enumeration (h : Reordered tree other) :
    nvidiaModuleUnloadOrder other.read = nvidiaModuleUnloadOrder tree.read := by
  have hread : ∀ name, other.read.isDirectory name = tree.read.isDirectory name ∧
      (sorted <$> other.read.holders name) = (sorted <$> tree.read.holders name) := by
    intro name
    simp only [read]
    cases hentry : tree.entry name with
    | none => rw [h.absent name hentry]; exact ⟨rfl, rfl⟩
    | some entry =>
        obtain ⟨entry', hentry', hsame⟩ := h.entries name entry hentry
        rw [hentry']
        cases hsame with
        | same => exact ⟨rfl, rfl⟩
        | holders hperm =>
            refine ⟨rfl, congrArg Except.ok ?_⟩
            have hsorted := ((List.perm_insertionSort (· ≤ ·) _).trans hperm.symm).trans
              (List.perm_insertionSort (· ≤ ·) _).symm
            exact hsorted.eq_of_sortedLE List.sortedLE_insertionSort List.sortedLE_insertionSort
  have hvisit := visit_congr (fun name => (hread name).1) (fun name => (hread name).2)
    (knownNvidiaModules.length + 1)
  have hrequire : other.read.requireDirectory = tree.read.requireDirectory := by
    funext name
    rw [SysModules.requireDirectory, SysModules.requireDirectory, (hread name).1]
  have hnvidia : other.nvidia = tree.nvidia := by
    refine List.filter_congr fun module _ => ?_
    rw [Bool.eq_iff_iff, List.contains_iff_mem, List.contains_iff_mem]
    exact h.names module
  rw [unload_order_eq, unload_order_eq, hvisit, hrequire, hnvidia]

/-- `nvidia_module_unload_order` returns exactly on the trees without a defect: every loaded NVIDIA
module once, everything that holds a module before it, whatever the order in which directories
list their entries. -/
theorem unload_order_exact (tree : SysTree) :
    ((∃ order, nvidiaModuleUnloadOrder tree.read = .ok order) ↔ ¬ tree.Defective) ∧
      (∀ order, nvidiaModuleUnloadOrder tree.read = .ok order → tree.UnloadOrder order) ∧
      ∀ other, Reordered tree other →
        nvidiaModuleUnloadOrder other.read = nvidiaModuleUnloadOrder tree.read := by
  have hyields := @unload_order_yields tree
  refine ⟨?_, fun order horder => ?_, fun other h => unload_order_enumeration h⟩
  · cases hresult : nvidiaModuleUnloadOrder tree.read with
    | error reason =>
        rw [hresult] at hyields
        exact iff_of_false (fun h => by obtain ⟨_, h⟩ := h; cases h) fun h => h hyields
    | ok order =>
        rw [hresult] at hyields
        obtain ⟨walk, rfl, hfollows, hall⟩ := hyields
        exact iff_of_true ⟨_, rfl⟩ (hfollows.not_defective hall)
  · have hnodup := (unload_order_valid horder).1
    rw [horder] at hyields
    obtain ⟨walk, rfl, hfollows, hall⟩ := hyields
    refine ⟨hnodup, fun module => ?_, hfollows.closed⟩
    exact ⟨fun hmodule => mem_nvidia.mp (hfollows.member module hmodule),
      fun hmodule => hall module (mem_nvidia.mpr hmodule)⟩

/-- A loaded driver with its display modules and its memory module, beside a file system. -/
def driverTree : SysTree where
  entries :=
    [("nvidia_uvm", .directory (.ok [])), ("nvidia_modeset", .directory (.ok ["nvidia_drm"])),
      ("nvidia", .directory (.ok ["nvidia_uvm", "nvidia_modeset"])), ("ext4", .notDirectory),
      ("nvidia_drm", .directory (.ok []))]
  distinct := by decide

/-- The same host, whose `/sys/module` and whose `holders` directories list in another order. -/
def relistedTree : SysTree where
  entries :=
    [("ext4", .notDirectory), ("nvidia", .directory (.ok ["nvidia_modeset", "nvidia_uvm"])),
      ("nvidia_drm", .directory (.ok [])), ("nvidia_modeset", .directory (.ok ["nvidia_drm"])),
      ("nvidia_uvm", .directory (.ok []))]
  distinct := by decide

/-- The two trees differ in nothing but the order in which their directories list. -/
theorem driver_relisted : Reordered driverTree relistedTree where
  entries := by
    intro name entry hentry
    obtain ⟨before, after, hsplit, _⟩ := List.lookup_eq_some_iff.mp hentry
    have hmem : (name, entry) ∈ driverTree.entries := by simp [hsplit]
    simp only [driverTree, List.mem_cons, Prod.mk.injEq, List.not_mem_nil, or_false] at hmem
    rcases hmem with ⟨rfl, rfl⟩ | ⟨rfl, rfl⟩ | ⟨rfl, rfl⟩ | ⟨rfl, rfl⟩ | ⟨rfl, rfl⟩
    · exact ⟨_, rfl, .same _⟩
    · exact ⟨_, rfl, .same _⟩
    · exact ⟨_, rfl, .holders (List.Perm.swap ..)⟩
    · exact ⟨_, rfl, .same _⟩
    · exact ⟨_, rfl, .same _⟩
  absent := by
    intro name hentry
    have hnames : (relistedTree.entries.map Prod.fst).Perm (driverTree.entries.map Prod.fst) := by
      decide
    rw [entry, List.lookup_eq_none_iff] at hentry ⊢
    intro pair hpair
    have hmem := hnames.subset (List.mem_map_of_mem hpair)
    obtain ⟨other, hother, hsame⟩ := List.mem_map.mp hmem
    exact hsame ▸ hentry other hother

/-- On the driver tree the memory and display modules come before the driver, and the other listing
gives the same order. -/
theorem unload_order_exact_driver_tree :
    nvidiaModuleUnloadOrder driverTree.read =
        .ok ["nvidia_drm", "nvidia_modeset", "nvidia_uvm", "nvidia"] ∧
      ¬ driverTree.Defective ∧
      driverTree.UnloadOrder ["nvidia_drm", "nvidia_modeset", "nvidia_uvm", "nvidia"] ∧
      nvidiaModuleUnloadOrder relistedTree.read = nvidiaModuleUnloadOrder driverTree.read := by
  have horder : nvidiaModuleUnloadOrder driverTree.read =
      .ok ["nvidia_drm", "nvidia_modeset", "nvidia_uvm", "nvidia"] := by decide +kernel
  obtain ⟨hexact, hvalid, hrelisted⟩ := unload_order_exact driverTree
  exact ⟨horder, hexact.mp ⟨_, horder⟩, hvalid _ horder, hrelisted relistedTree driver_relisted⟩

end SysTree
end NvidiaConverge
