import NvidiaConverge.Library.Text

/-!
# The desired state and its validation

`DesiredState` of `models.py` with `_validate_desired` of `desired.py` and the CUDA
minor-compatibility classification of `cuda_compat.py`. `Accepted` says that a state passed
validation; `accepted_iff` of the individual fields is what planning relies on.
-/

namespace NvidiaConverge

/-- `DesiredState` of `models.py`, with its defaults. -/
structure DesiredState where
  role : String := "compute"
  driver : String := "580-open"
  cudaCompat : String := "none"
  secureBoot : String := "signed"
  containerRuntime : String := "docker"
  containerTestImage : String :=
    "nvidia/cuda:13.1.2-devel-ubuntu22.04" ++
      "@sha256:d8332c008e2ef270e82d286e5245e771f839645683075bba21ad9e4fa59dbcbb"
  fabricManager : Bool := false
  mig : String := "disabled"
  migProfile : String := "none"
  kernelPolicy : String := "pin-compatible"
  deriving DecidableEq

namespace DesiredState

/-- `driver_major`: the leading digits, or the text before the first dash. -/
def driverMajor (desired : DesiredState) : String :=
  match (Text.spanDigits desired.driver.toList).1 with
  | [] => Text.beforeFirst '-' desired.driver
  | digits => String.ofList digits

/-- `open_kernel_module`: the selector asks for the open variant of the module. -/
def openKernelModule (desired : DesiredState) : Bool :=
  Text.endsWith desired.driver "-open"

/-- `exact_driver_version`: the selector is a version and not a branch. -/
def exactDriverVersion (desired : DesiredState) : Bool :=
  Text.contains desired.driver "."

/-- `driver_match_label`: how messages name what the selector asks for. -/
def driverMatchLabel (desired : DesiredState) : String :=
  if desired.exactDriverVersion then "version " ++ desired.driver
  else "branch " ++ desired.driverMajor

/-- `re.match(r"^(\d+)(?:\.|$)", version)`: the branch a version belongs to. -/
def versionBranch (version : String) : Option String :=
  match Text.spanDigits version.toList with
  | ([], _) => none
  | (digits, rest) =>
      if rest.head? = some '.' ∨ Text.dropFinalNewline rest = [] then
        some (String.ofList digits)
      else none

/-- `matches_driver_version`: the version is the selected one, or lies in the selected branch. -/
def matchesDriverVersion (desired : DesiredState) : Option String → Bool
  | none => false
  | some version =>
      if version = "" then false
      else if desired.exactDriverVersion then version == desired.driver
      else versionBranch version == some desired.driverMajor

end DesiredState

/-! ## Validation -/

/-- A dotted run of exactly `count` digit groups, and what follows it. -/
def dottedDigits : Nat → List Char → Option (List Char × List Char)
  | 0, cs => some ([], cs)
  | count + 1, cs =>
      match Text.spanDigits cs with
      | ([], _) => none
      | (digits, rest) =>
          match count, rest with
          | 0, rest => some (digits, rest)
          | _ + 1, '.' :: rest =>
              (dottedDigits count rest).map fun (more, tail) => (digits ++ '.' :: more, tail)
          | _ + 1, _ => none

/-- `_DRIVER_PATTERN.match`: a branch, an open branch, or a version of two or three groups. -/
def isDriver (driver : String) : Bool :=
  let body := Text.dropFinalNewline driver.toList
  match Text.spanDigits body with
  | ([], _) => false
  | (_, rest) =>
      rest == [] || rest == "-open".toList ||
        [2, 3].any fun groups =>
          (dottedDigits groups body).map Prod.snd == some []

/-- `_CUDA_COMPAT_PATTERN.match`: `none`, or a version of two groups. -/
def isCudaCompat (value : String) : Bool :=
  let body := Text.dropFinalNewline value.toList
  body == "none".toList || (dottedDigits 2 body).map Prod.snd == some []

/-- `[A-Za-z0-9]`: an ASCII letter or digit. -/
def isAsciiAlphanumeric (c : Char) : Bool :=
  c.isAlphanum

/-- The character is a lowercase hexadecimal digit. -/
def isLowerHex (c : Char) : Bool :=
  c.isDigit || ('a' ≤ c && c ≤ 'f')

/-- `image.removeprefix("nvidia/cuda:").split("@", 1)[0]`. -/
def imageTag (image : String) : String :=
  Text.beforeFirst '@' (Text.removePrefix image "nvidia/cuda:")

/-- `_CONTAINER_IMAGE_PATTERN.match`: an `nvidia/cuda` tag pinned to a sha256 digest. -/
def isPinnedImage (image : String) : Bool :=
  Text.startsWith image "nvidia/cuda:" &&
    match Text.splitFirst '@' (Text.removePrefix image "nvidia/cuda:").toList with
    | (first :: tag, some digest) =>
        isAsciiAlphanumeric first && tag.length ≤ 127 &&
          tag.all (fun c => isAsciiAlphanumeric c || c == '.' || c == '_' || c == '-') &&
          "sha256:".toList.isPrefixOf digest &&
          (let hex := Text.dropFinalNewline (digest.drop 7)
           hex.length == 64 && hex.all isLowerHex)
    | _ => false

/-- `container_cuda_full_version`: the CUDA version in the tag of an NVIDIA image. -/
def containerCudaFullVersion (image : String) : Option String :=
  if Text.startsWith image "nvidia/cuda:" then
    match dottedDigits 3 (imageTag image).toList with
    | some (version, rest) =>
        if rest.head? = some '-' ∨ Text.dropFinalNewline rest = [] then
          some (String.ofList version)
        else none
    | none => none
  else none

/-- `container_cuda_version`: the major and minor of the full version. -/
def containerCudaVersion (image : String) : Option String :=
  (containerCudaFullVersion image).map fun version =>
    match Text.rpartition? '.' version with
    | some (major, _) => major
    | none => version

/-- The parts of a text between the separators. -/
def splitAll (sep : Char) (cs : List Char) : List (List Char) :=
  cs.foldr
    (fun c parts =>
      if c = sep then [] :: parts
      else match parts with
        | [] => [[c]]
        | part :: rest => (c :: part) :: rest)
    [[]]

/-- `_CONTAINER_DEVEL_TAG_PATTERN.fullmatch`: a version followed by components, one `devel`. -/
def isDevelTag (tag : String) : Bool :=
  match splitAll '-' tag.toList with
  | [] => false
  | version :: components =>
      (dottedDigits 3 version).map Prod.snd == some [] &&
        components.all (fun part =>
          part != [] && part.all fun c => isAsciiAlphanumeric c || c == '.' || c == '_') &&
        components.contains "devel".toList

/-- The CUDA minors of `_CUDA_FORWARD_COMPATIBILITY`. -/
def qualifiedCudaVersions : List String :=
  ["12.2", "12.3", "12.4", "12.5", "12.6", "12.8", "12.9", "13.0", "13.1", "13.2", "13.3"]

/-- `cuda_minor_compatibility_minimum_driver`. -/
def cudaMinorCompatibilityMinimumDriver (version : String) : Option Nat :=
  if qualifiedCudaVersions.contains version then
    match Text.beforeFirst '.' version with
    | "12" => some 525
    | "13" => some 580
    | _ => none
  else none

/-- `CudaMinorCompatibilityStatus`: what is known of an image's CUDA version on a driver. -/
inductive CudaMinorCompatibilityStatus where
  | compatible | unsupported | unknown
  deriving DecidableEq

/-- `cuda_minor_compatibility_status`: the driver branch against the minimum of a CUDA version. -/
def cudaMinorCompatibilityStatus (driverMajor version : String) :
    CudaMinorCompatibilityStatus :=
  match cudaMinorCompatibilityMinimumDriver version with
  | none => .unknown
  | some minimum =>
      if !Text.isDecimal driverMajor then .unknown
      else if minimum ≤ Text.decimalValue driverMajor then .compatible
      else .unsupported

/-- `_ALLOWED_VALUES`, in order: the field's name, its value, and the allowed spellings. -/
def allowedValues (desired : DesiredState) : List (String × String × List String) :=
  [("role", desired.role, ["compute"]),
   ("secure_boot", desired.secureBoot, ["disabled", "signed"]),
   ("container_runtime", desired.containerRuntime, ["docker"]),
   ("mig", desired.mig, ["disabled", "enabled"]),
   ("mig_profile", desired.migProfile, ["full", "none"]),
   ("kernel_policy", desired.kernelPolicy, ["pin-compatible"])]

/-- The first field of `_ALLOWED_VALUES` outside its allowed spellings, as an error. -/
def allowedValueError (desired : DesiredState) : Option String :=
  ((allowedValues desired).find? fun (_, value, allowed) => !allowed.contains value).map
    fun (field, _, allowed) =>
      "desired." ++ field ++ " must be one of: " ++ Text.join ", " allowed

/-- `_validate_desired`, with the message of the `DesiredConfigError`. -/
def validateDesired (desired : DesiredState) : Except String Unit :=
  let expectedMigProfile := if desired.mig = "enabled" then "full" else "none"
  match allowedValueError desired with
  | some error => throw error
  | none =>
    if !isDriver desired.driver then
      throw ("desired.driver must be a driver branch like 580-open or a version like " ++
        "595.71.05")
    else if !isCudaCompat desired.cudaCompat then
      throw "desired.cuda_compat must be 'none' or a major.minor version like 13.1"
    else if desired.cudaCompat ≠ "none" then
      throw ("desired.cuda_compat must be 'none' in this release because a reversible " ++
        "CUDA compatibility-library deployment mode is not yet modeled")
    else if desired.migProfile ≠ expectedMigProfile then
      throw ("desired.mig_profile must be " ++ Text.repr expectedMigProfile ++ " when " ++
        "desired.mig is " ++ Text.repr desired.mig)
    else if !isPinnedImage desired.containerTestImage then
      throw ("desired.container_test_image must pin an nvidia/cuda tag to a lowercase " ++
        "sha256 digest")
    else
      match containerCudaVersion desired.containerTestImage with
      | none =>
          throw ("desired.container_test_image tag must start with a CUDA " ++
            "major.minor.patch version")
      | some cudaVersion =>
        if !isDevelTag (imageTag desired.containerTestImage) then
          throw ("desired.container_test_image must be a digest-pinned CUDA devel image " ++
            "so the audited Driver API probe can be built inside the isolated container")
        else
          match cudaMinorCompatibilityStatus desired.driverMajor cudaVersion with
          | .compatible => pure ()
          | .unknown =>
              throw ("desired.container_test_image CUDA " ++ cudaVersion ++ " is not in the " ++
                "qualified NVIDIA compatibility matrix")
          | .unsupported =>
              throw ("desired.driver branch " ++ desired.driverMajor ++ " cannot run CUDA " ++
                cudaVersion ++ " without forward compatibility; native minor-version " ++
                "compatibility requires branch " ++
                toString ((cudaMinorCompatibilityMinimumDriver cudaVersion).getD 0) ++
                " or newer while desired.cuda_compat is 'none'")

/-- The desired states that `load_desired` returns. -/
def Accepted (desired : DesiredState) : Prop :=
  validateDesired desired = .ok ()

instance (desired : DesiredState) : Decidable (Accepted desired) :=
  match h : validateDesired desired with
  | .ok () => isTrue h
  | .error _ => isFalse fun hok => by simp [Accepted, h] at hok

/-- The field values every accepted state has. -/
structure AcceptedFields (desired : DesiredState) : Prop where
  role : desired.role = "compute"
  secureBoot : desired.secureBoot = "signed" ∨ desired.secureBoot = "disabled"
  containerRuntime : desired.containerRuntime = "docker"
  mig : desired.mig = "enabled" ∨ desired.mig = "disabled"
  kernelPolicy : desired.kernelPolicy = "pin-compatible"
  cudaCompat : desired.cudaCompat = "none"

/-- A field outside its allowed spellings is an error. -/
theorem allowed_value_error_eq_none {desired : DesiredState}
    (h : allowedValueError desired = none) :
    ∀ entry ∈ allowedValues desired, entry.2.2.contains entry.2.1 = true := by
  simpa [allowedValueError] using h

/-- Validation fixes the role, runtime, policy and CUDA fields and bounds the others. -/
theorem Accepted.fields {desired : DesiredState} (h : Accepted desired) :
    AcceptedFields desired := by
  unfold Accepted validateDesired at h
  cases hallowed : allowedValueError desired with
  | some error => simp [hallowed] at h
  | none =>
      have hvalues := allowed_value_error_eq_none hallowed
      simp only [allowedValues, List.forall_mem_cons, List.contains_cons, List.contains_nil,
        Bool.or_false, Bool.or_eq_true, beq_iff_eq] at hvalues
      obtain ⟨hrole, hboot, hruntime, hmig, _, hpolicy, _⟩ := hvalues
      have hcuda : desired.cudaCompat = "none" := by
        by_contra hne
        simp only [hallowed] at h
        split at h
        · cases h
        · split at h
          · cases h
          · simp at h
      exact ⟨hrole, hboot.symm, hruntime, hmig.symm, hpolicy, hcuda⟩

/-- A desired state that is accepted has a driver selector of the checked form. -/
theorem Accepted.driver {desired : DesiredState} (h : Accepted desired) :
    isDriver desired.driver = true := by
  unfold Accepted validateDesired at h
  cases hallowed : allowedValueError desired with
  | some error => simp [hallowed] at h
  | none =>
      simp only [hallowed] at h
      split at h
      · cases h
      · next hdriver => simpa using hdriver

/-- A desired state that is accepted has a test image with a pinned digest. -/
theorem Accepted.pinned_image {desired : DesiredState} (h : Accepted desired) :
    isPinnedImage desired.containerTestImage = true := by
  unfold Accepted validateDesired at h
  generalize (if desired.mig = "enabled" then "full" else "none") = profile at h
  cases hallowed : allowedValueError desired with
  | some error => simp [hallowed] at h
  | none =>
      simp only [hallowed] at h
      split at h
      · cases h
      · split at h
        · cases h
        · split at h
          · cases h
          · split at h
            · cases h
            · split at h
              · cases h
              · next himage => simpa using himage

/-- A driver selector begins with at least one digit. -/
theorem is_driver_starts_with_digit {driver : String} (h : isDriver driver = true) :
    (Text.spanDigits driver.toList).1 ≠ [] := by
  obtain ⟨tail, htail⟩ := Text.drop_final_newline_prefix driver.toList
  rw [isDriver] at h
  rw [Text.spanDigits, List.span_eq_takeWhile_dropWhile] at h ⊢
  rw [← htail]
  cases hbody : Text.dropFinalNewline driver.toList with
  | nil => simp [hbody] at h
  | cons c rest =>
      by_cases hc : Text.isDigit c = true
      · simp [hc]
      · simp [hbody, hc] at h

/-- The branch of an accepted state is a nonempty run of decimal digits. -/
theorem Accepted.driver_major {desired : DesiredState} (h : Accepted desired) :
    desired.driverMajor.toList ≠ [] ∧ ∀ c ∈ desired.driverMajor.toList, Text.isDigit c = true := by
  have hne := is_driver_starts_with_digit h.driver
  have hmajor : desired.driverMajor.toList = (Text.spanDigits desired.driver.toList).1 := by
    rw [DesiredState.driverMajor]
    cases hspan : (Text.spanDigits desired.driver.toList).1 with
    | nil => exact absurd hspan hne
    | cons c rest => rw [String.toList_ofList]
  rw [hmajor]
  refine ⟨hne, fun c hc => ?_⟩
  rw [Text.spanDigits, List.span_eq_takeWhile_dropWhile] at hc
  exact List.mem_takeWhile_imp hc

example : Accepted {} := by decide

end NvidiaConverge
