import NvidiaConverge.Records.Host

/-!
# MIG geometry

`mig.py`: which observed geometry is the desired full one, which can be recreated by
rollback, and the commands that create and destroy instances.
-/

namespace NvidiaConverge

/-- `_normalize_profile`: the profile in lower case, without the prefix `MIG`. -/
def normalizeProfile (profile : String) : String :=
  Text.lower (Text.strip (Text.removePrefix profile "MIG "))

/-- `(?P<slices>[1-9]\d*)<unit>\.(?P<rest>.+)`: the slice count and the text after the dot. -/
def splitSlices (unit : Char) (profile : List Char) : Option (List Char × List Char) :=
  match Text.spanDigits profile with
  | (first :: digits, mark :: '.' :: rest) =>
      if '1' ≤ first ∧ first ≤ '9' ∧ mark = unit ∧ rest ≠ [] ∧ Char.ofNat 10 ∉ rest then
        some (first :: digits, rest)
      else none
  | _ => none

/-- `_compute_instance_uses_full_gpu_instance`, for the instance's only compute instance. -/
def computeUsesFullGpuInstance (gpuProfile computeProfile : String) : Bool :=
  let gpu := normalizeProfile gpuProfile
  let compute := normalizeProfile computeProfile
  compute == gpu ||
    match splitSlices 'g' gpu.toList, splitSlices 'c' compute.toList with
    | some (gpuSlices, _), some (computeSlices, computeGpu) =>
        computeGpu == gpu.toList && computeSlices == gpuSlices
    | _, _ => false

/-- One GPU, whose only GPU instance holds one compute instance that uses all of it. -/
def singleFullInstance (geometry : List MigGpuInstance) (gpuUuids : List String) :
    Option MigGpuInstance :=
  match gpuUuids, geometry with
  | [gpuUuid], [gpuInstance] =>
      match gpuInstance.computeInstances with
      | [compute] =>
          if gpuInstance.gpuUuid = gpuUuid ∧
              computeUsesFullGpuInstance gpuInstance.profile compute.profile = true then
            some gpuInstance
          else none
      | _ => none
  | _, _ => none

/-- `full_mig_geometry_matches`: one instance with profile 0 at the start of the only GPU. -/
def fullMigGeometryMatches (geometry : List MigGpuInstance) (gpuUuids : List String) : Bool :=
  match singleFullInstance geometry gpuUuids with
  | some gpuInstance => gpuInstance.profileId == 0 && gpuInstance.placementStart == 0
  | none => false

/-- `restorable_mig_geometry`: no instance, or one that fills the only GPU. -/
def restorableMigGeometry (geometry : List MigGpuInstance) (gpuUuids : List String) : Bool :=
  geometry.isEmpty || (singleFullInstance geometry gpuUuids).isSome

/-- `mig_geometry_create_command`; outer `none` is the `ValueError`. -/
def migGeometryCreateCommand (gpuUuid : String) :
    List MigGpuInstance → Option (Option (List String))
  | [] => some none
  | gpuInstance :: rest =>
      if restorableMigGeometry (gpuInstance :: rest) [gpuUuid] then
        some (some ["nvidia-smi", "mig", "-i", gpuUuid, "-cgi",
          toString gpuInstance.profileId ++ ":" ++ toString gpuInstance.placementStart, "-C"])
      else none

/-- `desired_full_mig_geometry_command`: one full GPU instance with its compute instance. -/
def desiredFullMigGeometryCommand (gpuUuid : String) : List String :=
  ["nvidia-smi", "mig", "-i", gpuUuid, "-cgi", "0:0", "-C"]

/-- `mig_geometry_destroy_commands`: compute instances before their GPU instances. -/
def migGeometryDestroyCommands (gpuUuid : String) : List (List String) :=
  [["nvidia-smi", "mig", "-i", gpuUuid, "-dci"], ["nvidia-smi", "mig", "-i", gpuUuid, "-dgi"]]

/-- The desired geometry is one rollback can recreate. -/
theorem full_geometry_restorable {geometry : List MigGpuInstance} {gpuUuids : List String}
    (h : fullMigGeometryMatches geometry gpuUuids = true) :
    restorableMigGeometry geometry gpuUuids = true := by
  unfold fullMigGeometryMatches at h
  cases hs : singleFullInstance geometry gpuUuids with
  | none => simp [hs] at h
  | some gpuInstance => simp [restorableMigGeometry, hs]

/-- The desired geometry exists on a single GPU only. -/
theorem full_geometry_single_gpu {geometry : List MigGpuInstance} {gpuUuids : List String}
    (h : fullMigGeometryMatches geometry gpuUuids = true) :
    ∃ gpuUuid, gpuUuids = [gpuUuid] := by
  unfold fullMigGeometryMatches singleFullInstance at h
  match gpuUuids, geometry with
  | [gpuUuid], _ => exact ⟨gpuUuid, rfl⟩
  | [], _ => simp at h
  | _ :: _ :: _, _ => simp at h

end NvidiaConverge
