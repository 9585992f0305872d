import NvidiaConverge.Library.Result
import NvidiaConverge.Rollback.Commands

/-!
# The loaded module graph

`nvidia_module_unload_order` of `module_safety.py`: a depth-first walk over the holders that
sysfs reports, which emits a module after everything that holds it. Read `unload_order_valid`:
a returned order names known modules only, each once.
-/

namespace NvidiaConverge

open Result (refuse)

/-- `_KNOWN_NVIDIA_MODULES`: the modules that may be unloaded and loaded. -/
def knownNvidiaModules : List String :=
  ["nvidia", "nvidia_drm", "nvidia_fs", "nvidia_modeset", "nvidia_peermem", "nvidia_uvm"]

/-- `/sys/module` as it is read: entries, their kind, and the entries of `holders`. -/
structure SysModules where
  names : Except String (List String)
  isDirectory : String → Except String Bool
  holders : String → Except String (List String)

/-- `_require_module_directory`: the entry of a module must be a directory. -/
def SysModules.requireDirectory (sys : SysModules) (module : String) : Except String Unit :=
  match sys.isDirectory module with
  | .error reason =>
      throw ("loaded module holder " ++ module ++ " disappeared during inspection: " ++ reason)
  | .ok directory =>
      refuse (directory = false) ("loaded module entry " ++ module ++ " is not a directory")

/-- The walk's sets; `visited` has the members of `ordered`. -/
structure Walk where
  loaded : List String
  visiting : List String
  ordered : List String

/-- `visit`. The modules on the current path are distinct known ones, which bounds the depth. -/
def SysModules.visit (sys : SysModules) : Nat → Walk → String → Except String Walk
  | 0, _, _ => throw "loaded NVIDIA module walk exceeds the number of known modules"
  | fuel + 1, walk, module =>
      if module ∈ walk.ordered ∨ module ∉ walk.loaded then pure walk
      else if module ∈ walk.visiting then
        throw ("loaded NVIDIA module dependency cycle includes " ++ module)
      else
        match sys.holders module with
        | .error reason =>
            throw ("cannot inspect loaded module holders for " ++ module ++ ": " ++ reason)
        | .ok names => do
            let holders := sorted names
            let unknown := holders.filter fun holder => holder ∉ knownNvidiaModules
            refuse (unknown ≠ [])
              ("loaded module " ++ module ++ " has unsupported dependents: " ++
                Text.join ", " unknown)
            -- The holders of a module are unloaded before it.
            let walk ← holders.foldlM
              (fun walk holder => do
                sys.requireDirectory holder
                sys.visit fuel { walk with loaded := walk.loaded.insert holder } holder)
              { walk with visiting := module :: walk.visiting }
            pure
              { walk with
                visiting := walk.visiting.erase module
                ordered := walk.ordered ++ [module] }

/-- `nvidia_module_unload_order`: the loaded NVIDIA modules, every one behind those that hold it. -/
def nvidiaModuleUnloadOrder (sys : SysModules) : Except String (List String) :=
  match sys.names with
  | .error reason => throw ("cannot inspect loaded kernel modules: " ++ reason)
  | .ok names => do
      let loaded := knownNvidiaModules.filter (names.contains ·)
      loaded.forM sys.requireDirectory
      if loaded = [] then pure []
      else do
        let depth := knownNvidiaModules.length + 1
        let walk ← sys.visit depth { loaded, visiting := [], ordered := [] } "nvidia"
        let walk ← (sorted walk.loaded).foldlM (sys.visit depth) walk
        pure walk.ordered

/-- What holds of a walk between two visits. -/
structure Walk.Valid (walk : Walk) : Prop where
  nodup : walk.ordered.Nodup
  emitted : ∀ module ∈ walk.ordered, module ∉ walk.visiting
  known : ∀ module ∈ walk.loaded, module ∈ knownNvidiaModules
  orderedKnown : ∀ module ∈ walk.ordered, module ∈ knownNvidiaModules

/-- A fold keeps what each of its steps keeps. -/
theorem fold_walk_valid {visit : Walk → String → Except String Walk}
    (hstep : ∀ {walk walk' module}, visit walk module = .ok walk' → module ∈ knownNvidiaModules →
      walk.Valid → walk'.Valid ∧ walk'.visiting = walk.visiting)
    {modules : List String} (hknown : ∀ module ∈ modules, module ∈ knownNvidiaModules)
    {walk walk' : Walk} (h : modules.foldlM visit walk = .ok walk') (hvalid : walk.Valid) :
    walk'.Valid ∧ walk'.visiting = walk.visiting := by
  induction modules generalizing walk with
  | nil =>
      obtain rfl := Result.pure_eq_ok.mp h
      exact ⟨hvalid, rfl⟩
  | cons module modules ih =>
      rw [List.foldlM_cons] at h
      obtain ⟨next, hnext, hrest⟩ := Result.bind_eq_ok.mp h
      obtain ⟨hnextValid, hvisiting⟩ := hstep hnext (hknown module (by simp)) hvalid
      obtain ⟨hlast, heq⟩ :=
        ih (fun other hother => hknown other (by simp [hother])) hrest hnextValid
      exact ⟨hlast, heq.trans hvisiting⟩

/-- A visit emits a module at most once and leaves the current path as it was. -/
theorem visit_valid {sys : SysModules} {fuel : Nat} {walk walk' : Walk} {module : String}
    (h : sys.visit fuel walk module = .ok walk') (hvalid : walk.Valid) :
    walk'.Valid ∧ walk'.visiting = walk.visiting := by
  induction fuel generalizing walk walk' module with
  | zero => cases h
  | succ fuel ih =>
      rw [SysModules.visit] at h
      split at h
      · obtain rfl := Result.pure_eq_ok.mp h
        exact ⟨hvalid, rfl⟩
      · next hnew =>
          split at h
          · cases h
          · next hpath =>
              split at h
              · cases h
              · next names _ =>
                  simp only [not_or, not_not] at hnew
                  obtain ⟨hunknown, hfold⟩ := Result.check_bind_eq_ok.mp h
                  obtain ⟨last, hlast, heq⟩ := Result.bind_eq_ok.mp hfold
                  obtain rfl := Result.pure_eq_ok.mp heq
                  have hholders : ∀ holder ∈ sorted names, holder ∈ knownNvidiaModules := by
                    simpa using Result.refuse_eq_ok.mp hunknown
                  -- The module joins the path, which no emitted module is on.
                  have hstart : Walk.Valid { walk with visiting := module :: walk.visiting } :=
                    { nodup := hvalid.nodup
                      emitted := by
                        intro other hother
                        simp only [List.mem_cons, not_or]
                        refine ⟨?_, hvalid.emitted other hother⟩
                        rintro rfl
                        exact hnew.1 hother
                      known := hvalid.known
                      orderedKnown := hvalid.orderedKnown }
                  have hstep : ∀ {before after : Walk} {holder : String},
                      (do
                        sys.requireDirectory holder
                        sys.visit fuel
                          { before with loaded := before.loaded.insert holder } holder) =
                        .ok after → holder ∈ knownNvidiaModules → before.Valid →
                      after.Valid ∧ after.visiting = before.visiting := by
                    intro before after holder hrun hholder hbefore
                    obtain ⟨_, hvisit⟩ := Result.check_bind_eq_ok.mp hrun
                    have hgrown : Walk.Valid
                        { before with loaded := before.loaded.insert holder } := by
                      refine ⟨hbefore.nodup, hbefore.emitted, ?_, hbefore.orderedKnown⟩
                      intro other hother
                      rcases List.mem_insert_iff.mp hother with rfl | hother
                      · exact hholder
                      · exact hbefore.known other hother
                    have hafter := ih hvisit hgrown
                    exact hafter
                  obtain ⟨hlastValid, hvisiting⟩ :=
                    fold_walk_valid hstep hholders hlast hstart
                  have hmodule : module ∉ last.ordered := by
                    intro hmem
                    exact hlastValid.emitted module hmem (by simp [hvisiting])
                  have herase : last.visiting.erase module = walk.visiting := by
                    simp [hvisiting]
                  refine ⟨⟨?_, ?_, hlastValid.known, ?_⟩, herase⟩
                  · show (last.ordered ++ [module]).Nodup
                    rw [List.nodup_append_comm]
                    exact List.nodup_cons.mpr ⟨hmodule, hlastValid.nodup⟩
                  · intro other hother
                    show other ∉ last.visiting.erase module
                    rw [herase]
                    rcases List.mem_append.mp hother with hother | hother
                    · intro hmem
                      exact hlastValid.emitted other hother (by simp [hvisiting, hmem])
                    · rw [List.mem_singleton.mp hother]
                      exact hpath
                  · intro other hother
                    rcases List.mem_append.mp hother with hother | hother
                    · exact hlastValid.orderedKnown other hother
                    · rw [List.mem_singleton.mp hother]
                      exact hvalid.known module hnew.2

/-- A returned unload order names known modules, each once. -/
theorem unload_order_valid {sys : SysModules} {order : List String}
    (h : nvidiaModuleUnloadOrder sys = .ok order) :
    order.Nodup ∧ ∀ module ∈ order, module ∈ knownNvidiaModules := by
  unfold nvidiaModuleUnloadOrder at h
  split at h
  · cases h
  · next names _ =>
      obtain ⟨_, hrest⟩ := Result.check_bind_eq_ok.mp h
      split at hrest
      · obtain rfl := Result.pure_eq_ok.mp hrest
        simp
      · obtain ⟨first, hfirst, hfold⟩ := Result.bind_eq_ok.mp hrest
        obtain ⟨last, hlast, heq⟩ := Result.bind_eq_ok.mp hfold
        obtain rfl := Result.pure_eq_ok.mp heq
        have hstart : Walk.Valid
            { loaded := knownNvidiaModules.filter (names.contains ·), visiting := [],
              ordered := [] } :=
          { nodup := List.nodup_nil
            emitted := by simp
            known := fun module hmodule => (List.mem_filter.mp hmodule).1
            orderedKnown := by simp }
        obtain ⟨hfirstValid, _⟩ := visit_valid hfirst hstart
        have hloaded : ∀ module ∈ sorted first.loaded, module ∈ knownNvidiaModules := by
          intro module hmodule
          exact hfirstValid.known module (by simpa [sorted] using hmodule)
        obtain ⟨hlastValid, _⟩ := fold_walk_valid
          (fun hvisit _ hvalid => visit_valid hvisit hvalid) hloaded hlast hfirstValid
        exact ⟨hlastValid.nodup, hlastValid.orderedKnown⟩

end NvidiaConverge
