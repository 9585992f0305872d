import NvidiaConverge.Library.Posix
import NvidiaConverge.Library.Result

/-!
# Canonical source distributions

`canonicalize_sdist` of `canonicalize_sdist.py` over a format that reads and writes gzip tar
archives. Read `one_form_iff` first: two archives with the same contents have one canonical form,
which reads back as it was and is its own canonical form, exactly when their members carry the
same type codes, no sparse member carries bytes, tar stores every name as it is and takes no file
for a directory.
-/

namespace NvidiaConverge

open Result (refuse)

/-! ## Members -/

/-- The type code of a member of a tar archive, as the code tells them apart. -/
inductive TypeFlag where
  | regular | oldRegular | contiguous | sparse | directory
  | other (code : UInt8)
  deriving DecidableEq

/-- `TarInfo.isfile`: the member is one of the kinds of regular file. -/
def TypeFlag.isFile : TypeFlag → Bool
  | .regular | .oldRegular | .contiguous | .sparse => true
  | .directory | .other _ => false

/-- `TarInfo.isdir`: the member is a directory. -/
def TypeFlag.isDir (typeflag : TypeFlag) : Bool :=
  typeflag = .directory

/-- What `canonicalize_sdist` reads of a member; owners, times and PAX headers are read by
nothing. `payload` is the file's bytes as `extractfile` reads them, or nothing where it fails. -/
structure SourceMember where
  name : String
  typeflag : TypeFlag
  mode : Nat
  payload : Option (List UInt8)
  deriving DecidableEq

namespace SourceMember

/-- `mode & 0o111`: one of the bits that make a file executable is set. -/
def executable (member : SourceMember) : Bool :=
  member.mode &&& 0o111 ≠ 0

/-- The bytes of a member that is a file, and none of any other. -/
def bytes (member : SourceMember) : List UInt8 :=
  if member.typeflag.isFile then member.payload.getD [] else []

/-- `PurePosixPath(name).parts` of a relative name. -/
def parts (member : SourceMember) : List String :=
  ((Posix.splitOn '/' member.name.toList).map String.ofList).filter fun part =>
    part ≠ "" && part ≠ "."

end SourceMember

/-- `_validate_member`: the member's name and kind are safe, and its root is the archive's. -/
def validateMember (member : SourceMember) (root : Option String) : Except String String := do
  refuse (member.name = "" ∨ Text.startsWith member.name "/" = true ∨
      member.name.toList.contains Text.backslash = true ∨ ".." ∈ member.parts)
    ("unsafe source-distribution member: " ++ Text.repr member.name)
  refuse (member.typeflag.isDir = false ∧ member.typeflag.isFile = false)
    ("unsupported source-distribution member type: " ++ Text.repr member.name)
  match member.parts with
  | [] => throw "tuple index out of range"
  | memberRoot :: _ => do
      refuse (∃ other ∈ root, memberRoot ≠ other)
        "source distribution has more than one top-level root"
      pure memberRoot

/-- The loop over the members, which also refuses a name that was there already. -/
def validateMembers : Option String → List String → List SourceMember → Except String Unit
  | _, _, [] => pure ()
  | root, names, member :: members => do
      let root ← validateMember member root
      refuse (member.name ∈ names)
        ("duplicate source-distribution member: " ++ Text.repr member.name)
      validateMembers (some root) (member.name :: names) members

/-- A member as it is written: its size is that of its data, its owner is 0, its time is the epoch
and it has no PAX headers of its own. -/
structure TarEntry where
  name : String
  typeflag : TypeFlag
  mode : Nat
  data : List UInt8
  deriving DecidableEq

/-- `_canonical_member` with the data behind it. -/
def canonicalMember (member : SourceMember) : TarEntry where
  name := member.name
  typeflag := member.typeflag
  mode :=
    if member.typeflag.isDir = true ∨ (member.typeflag.isFile = true ∧ member.executable = true)
    then 0o755 else 0o644
  data := member.bytes

/-- `sorted(members, key=name)`: the members in the order of their names. -/
def sortedMembers (members : List SourceMember) : List SourceMember :=
  members.insertionSort fun member other => member.name ≤ other.name

/-- The loop of `_write_canonical_archive`: the entries that are written, in order. -/
def canonicalEntries (members : List SourceMember) : Except String (List TarEntry) :=
  match (sortedMembers members).find? fun member =>
      member.typeflag.isFile && member.payload.isNone with
  | some member =>
      .error ("could not read source-distribution member: " ++ Text.repr member.name)
  | none => .ok ((sortedMembers members).map canonicalMember)

/-! ## The format -/

/-- What the fixed field of a tar header shows of a name: its first hundred characters, up to a
NUL. -/
def headerName (name : String) : List Char :=
  (name.toList.take 100).takeWhile fun c => c.toNat ≠ 0

/-- A file under the old type code whose header shows a name that ends in a slash: tar takes such a
header for that of a directory, also where a longer name follows in a PAX record. -/
def ReadsAsDirectory (typeflag : TypeFlag) (name : String) : Prop :=
  typeflag = .oldRegular ∧ (headerName name).getLast? = some '/'

instance (typeflag : TypeFlag) (name : String) : Decidable (ReadsAsDirectory typeflag name) :=
  inferInstanceAs (Decidable (_ ∧ _))

/-- An entry that tar reads back under its own type code. -/
structure TarEntry.Plain (entry : TarEntry) : Prop where
  supported : (entry.typeflag.isDir || entry.typeflag.isFile) = true
  kept : ¬ ReadsAsDirectory entry.typeflag entry.name

/-- `tarfile` and `gzip` as they are used: archives of a type `File`, the reading of one, and the
writing of entries with an epoch that fits a gzip header. A written archive reads back entry by
entry up to the first header that tar takes for a directory's, which reads back as a directory. tar
may store a name in another form, as for a file whose name ends in a slash; a GNU sparse header
without a map is an empty file. -/
structure SdistFormat (File : Type) where
  read : File → Except String (List SourceMember)
  write : Nat → List TarEntry → File
  storedName : TypeFlag → String → String
  read_write : ∀ epoch entries, epoch < 2 ^ 32 → (∀ entry ∈ entries, entry.Plain) →
    read (write epoch entries) = .ok (entries.map fun entry =>
      { name := storedName entry.typeflag entry.name
        typeflag := entry.typeflag
        mode := entry.mode
        payload := some (if entry.typeflag = .sparse then [] else entry.data) })
  read_directory : ∀ epoch before entry after members, epoch < 2 ^ 32 →
    (∀ earlier ∈ before, earlier.Plain) → ReadsAsDirectory entry.typeflag entry.name →
      read (write epoch (before ++ entry :: after)) = .ok members →
        ∃ member, members[before.length]? = some member ∧ member.typeflag = .directory

variable {File : Type}

/-- The member that a written entry reads back as. -/
def SdistFormat.readBack (format : SdistFormat File) (entry : TarEntry) : SourceMember where
  name := format.storedName entry.typeflag entry.name
  typeflag := entry.typeflag
  mode := entry.mode
  payload := some (if entry.typeflag = .sparse then [] else entry.data)

/-- The archive that `canonicalize_sdist` writes; a gzip header has no room for a later epoch. -/
def canonicalFile (format : SdistFormat File) (epoch : Int) (file : File) : Except String File := do
  refuse (epoch < 0) "source epoch must be non-negative"
  let members ← format.read file
  refuse (members = []) "source distribution is empty"
  validateMembers none [] members
  refuse (2 ^ 32 ≤ epoch) "argument out of range"
  let entries ← canonicalEntries members
  pure (format.write epoch.toNat entries)

/-! ## Accepted members -/

/-- A member that the checks on one member let through. -/
structure SourceMember.WellFormed (member : SourceMember) : Prop where
  nonempty : member.name ≠ ""
  relative : Text.startsWith member.name "/" = false
  noBackslash : member.name.toList.contains Text.backslash = false
  noParent : ".." ∉ member.parts
  supported : (member.typeflag.isDir || member.typeflag.isFile) = true

variable {member : SourceMember} {members : List SourceMember}

/-- A member is accepted exactly when it is well formed and its root is the archive's. -/
theorem validate_member_eq_ok {root : Option String} {result : String} :
    validateMember member root = .ok result ↔
      member.WellFormed ∧ member.parts.head? = some result ∧ ∀ other ∈ root, other = result := by
  rw [validateMember, Result.check_bind_eq_ok, Result.refuse_eq_ok, Result.check_bind_eq_ok,
    Result.refuse_eq_ok]
  have hformed : (¬ (member.name = "" ∨ Text.startsWith member.name "/" = true ∨
      member.name.toList.contains Text.backslash = true ∨ ".." ∈ member.parts) ∧
      ¬ (member.typeflag.isDir = false ∧ member.typeflag.isFile = false)) ↔ member.WellFormed := by
    constructor
    · rintro ⟨hname, htype⟩
      simp only [not_or, Bool.not_eq_true] at hname
      refine ⟨hname.1, hname.2.1, hname.2.2.1, hname.2.2.2, ?_⟩
      rw [Bool.or_eq_true]
      by_contra hneither
      simp only [not_or, Bool.not_eq_true] at hneither
      exact htype hneither
    · intro h
      refine ⟨?_, ?_⟩
      · rintro (hname | hname | hname | hname)
        · exact h.nonempty hname
        · rw [h.relative] at hname
          cases hname
        · rw [h.noBackslash] at hname
          cases hname
        · exact h.noParent hname
      · rintro ⟨hdir, hfile⟩
        have hsupported := h.supported
        rw [hdir, hfile] at hsupported
        cases hsupported
  rw [← and_assoc, hformed]
  refine and_congr_right fun _ => ?_
  cases hparts : member.parts with
  | nil => simp
  | cons memberRoot rest =>
      rw [Result.check_bind_eq_ok, Result.refuse_eq_ok, Result.pure_eq_ok, List.head?_cons,
        Option.some.injEq]
      constructor
      · rintro ⟨hroot, rfl⟩
        refine ⟨rfl, fun other hother => ?_⟩
        by_contra hne
        exact hroot ⟨other, hother, fun heq => hne heq.symm⟩
      · rintro ⟨rfl, hroot⟩
        refine ⟨?_, rfl⟩
        rintro ⟨other, hother, hne⟩
        exact hne (hroot other hother).symm

/-- The members are accepted exactly when each is well formed, all have one root and no name
repeats. -/
theorem validate_members_eq_ok {root : Option String} {names : List String} :
    validateMembers root names members = .ok () ↔
      (∀ member ∈ members, member.WellFormed) ∧
        (∃ result, (∀ other ∈ root, other = result) ∧
          ∀ member ∈ members, member.parts.head? = some result) ∧
        (members.map SourceMember.name).Nodup ∧ ∀ member ∈ members, member.name ∉ names := by
  induction members generalizing root names with
  | nil =>
      refine iff_of_true rfl ⟨by simp, ⟨root.getD "", ?_, by simp⟩, by simp, by simp⟩
      rintro other hother
      rw [Option.mem_def.mp hother]
      rfl
  | cons member members ih =>
      rw [validateMembers, Result.bind_eq_ok]
      simp only [validate_member_eq_ok, Result.check_bind_eq_ok, Result.refuse_eq_ok, ih,
        List.forall_mem_cons, List.map_cons, List.nodup_cons]
      constructor
      · rintro ⟨memberRoot, ⟨hformed, hhead, hroot⟩, hname, hothers, ⟨result, hresult, hheads⟩,
          hnodup, hnames⟩
        obtain rfl := hresult memberRoot rfl
        refine ⟨⟨hformed, hothers⟩, ⟨memberRoot, hroot, hhead, hheads⟩, ⟨?_, hnodup⟩, hname,
          fun other hother hmem => hnames other hother (List.mem_cons_of_mem _ hmem)⟩
        intro hmem
        obtain ⟨other, hother, heq⟩ := List.mem_map.mp hmem
        exact hnames other hother (heq ▸ List.mem_cons_self)
      · rintro ⟨⟨hformed, hothers⟩, ⟨result, hroot, hhead, hheads⟩, ⟨hfresh, hnodup⟩, hname, hnames⟩
        refine ⟨result, ⟨hformed, hhead, hroot⟩, hname, hothers, ⟨result, ?_, hheads⟩, hnodup,
          fun other hother hmem => ?_⟩
        · rintro _ ⟨⟩
          rfl
        · rcases List.mem_cons.mp hmem with heq | hmem
          · exact hfresh (List.mem_map.mpr ⟨other, hother, heq⟩)
          · exact hnames other hother hmem

/-- What `canonicalize_sdist` accepts of an archive's members. -/
structure AcceptedMembers (members : List SourceMember) : Prop where
  nonempty : members ≠ []
  wellFormed : ∀ member ∈ members, member.WellFormed
  root : ∃ result, ∀ member ∈ members, member.parts.head? = some result
  nodup : (members.map SourceMember.name).Nodup
  readable : ∀ member ∈ members, member.typeflag.isFile = true → member.payload.isSome = true

theorem mem_sorted_members : member ∈ sortedMembers members ↔ member ∈ members :=
  List.mem_insertionSort _

/-- The entries are written exactly when every file can be read, and are then those of the members
in order. -/
theorem canonical_entries_eq_ok {entries : List TarEntry} :
    canonicalEntries members = .ok entries ↔
      (∀ member ∈ members, member.typeflag.isFile = true → member.payload.isSome = true) ∧
        entries = (sortedMembers members).map canonicalMember := by
  unfold canonicalEntries
  split
  · next member hfound =>
      refine iff_of_false (fun h => by cases h) fun h => ?_
      have hmember := List.find?_some hfound
      rw [Bool.and_eq_true, Option.isNone_iff_eq_none] at hmember
      have hsome := h.1 member (mem_sorted_members.mp (List.mem_of_find?_eq_some hfound)) hmember.1
      rw [hmember.2] at hsome
      cases hsome
  · next hnone =>
      have hreadable : ∀ member ∈ members, member.typeflag.isFile = true →
          member.payload.isSome = true := by
        intro member hmember hfile
        have h := List.find?_eq_none.mp hnone member (mem_sorted_members.mpr hmember)
        rw [hfile, Bool.true_and, Option.isNone_iff_eq_none] at h
        exact Option.isSome_iff_ne_none.mpr h
      exact ⟨fun h => ⟨hreadable, (Except.ok.inj h).symm⟩, fun h => congrArg Except.ok h.2.symm⟩

/-- The archive that is written for accepted members. -/
theorem canonical_file_eq_ok {format : SdistFormat File} {epoch : Int} {file out : File} :
    canonicalFile format epoch file = .ok out ↔
      0 ≤ epoch ∧ epoch < 2 ^ 32 ∧ ∃ members, format.read file = .ok members ∧
        AcceptedMembers members ∧
        out = format.write epoch.toNat ((sortedMembers members).map canonicalMember) := by
  unfold canonicalFile
  rw [Result.check_bind_eq_ok, Result.refuse_eq_ok, Result.bind_eq_ok, not_lt]
  refine and_congr_right fun _ => ?_
  constructor
  · rintro ⟨members, hread, hrest⟩
    obtain ⟨hne, hrest⟩ := Result.check_bind_eq_ok.mp hrest
    obtain ⟨hvalid, hrest⟩ := Result.check_bind_eq_ok.mp hrest
    obtain ⟨hlate, hrest⟩ := Result.check_bind_eq_ok.mp hrest
    obtain ⟨entries, hentries, hout⟩ := Result.bind_eq_ok.mp hrest
    obtain ⟨hformed, ⟨result, _, hroot⟩, hnodup, _⟩ := validate_members_eq_ok.mp hvalid
    obtain ⟨hreadable, rfl⟩ := canonical_entries_eq_ok.mp hentries
    exact ⟨not_le.mp (Result.refuse_eq_ok.mp hlate), members, hread,
      ⟨Result.refuse_eq_ok.mp hne, hformed, ⟨result, hroot⟩, hnodup, hreadable⟩,
      (Result.pure_eq_ok.mp hout).symm⟩
  · rintro ⟨hlate, members, hread, haccepted, rfl⟩
    obtain ⟨result, hroot⟩ := haccepted.root
    have hvalid : validateMembers none [] members = .ok () :=
      validate_members_eq_ok.mpr ⟨haccepted.wellFormed, ⟨result, fun _ hother => (by cases hother),
        hroot⟩, haccepted.nodup, fun _ _ => List.not_mem_nil⟩
    have hentries := canonical_entries_eq_ok.mpr ⟨haccepted.readable, rfl⟩
    refine ⟨members, hread, ?_⟩
    rw [Result.refuse_of_not haccepted.nonempty, Result.ok_bind, hvalid, Result.ok_bind,
      Result.refuse_of_not (not_le.mpr hlate), Result.ok_bind, hentries]
    rfl

/-! ## Contents -/

/-- What an archive holds of a member: its name, its kind, whether a file is executable, and its
bytes. -/
structure Content where
  name : String
  directory : Bool
  executable : Bool
  bytes : List UInt8
  deriving DecidableEq

def SourceMember.content (member : SourceMember) : Content where
  name := member.name
  directory := member.typeflag.isDir
  executable := member.typeflag.isFile && member.executable
  bytes := member.bytes

/-- Two archives have the same set of contents, in whatever order. -/
def SameContents (members others : List SourceMember) : Prop :=
  ∀ content, content ∈ members.map SourceMember.content ↔
    content ∈ others.map SourceMember.content

/-- The name of a member, whether it is a directory, and its bytes. -/
def SourceMember.shape (member : SourceMember) : String × Bool × List UInt8 :=
  (member.name, member.typeflag.isDir, member.bytes)

variable {others : List SourceMember}

instance : Std.Total fun member other : SourceMember => member.name ≤ other.name :=
  ⟨fun member other => le_total member.name other.name⟩

instance : IsTrans SourceMember fun member other => member.name ≤ other.name :=
  ⟨fun _ _ _ => le_trans⟩

theorem sorted_members_perm (members : List SourceMember) : (sortedMembers members).Perm members :=
  List.perm_insertionSort _ _

theorem sorted_members_pairwise (members : List SourceMember) :
    (sortedMembers members).Pairwise fun member other => member.name ≤ other.name :=
  List.pairwise_insertionSort _ _

/-- Members with distinct names are told apart by their names. -/
theorem eq_of_name_eq (hnodup : (members.map SourceMember.name).Nodup) {other : SourceMember}
    (hmember : member ∈ members) (hother : other ∈ members) (hname : member.name = other.name) :
    member = other :=
  List.inj_on_of_nodup_map hnodup hmember hother hname

theorem nodup_contents (hnodup : (members.map SourceMember.name).Nodup) :
    (members.map SourceMember.content).Nodup := by
  refine (List.nodup_map_iff_inj_on (List.Nodup.of_map _ hnodup)).mpr fun member hmember other
    hother h => ?_
  exact eq_of_name_eq hnodup hmember hother (congrArg Content.name h)

/-- Sorted by name, the same contents are the same list. -/
theorem sorted_contents_eq (hmembers : (members.map SourceMember.name).Nodup)
    (hothers : (others.map SourceMember.name).Nodup) (h : SameContents members others) :
    (sortedMembers members).map SourceMember.content =
      (sortedMembers others).map SourceMember.content := by
  have hperm : (members.map SourceMember.content).Perm (others.map SourceMember.content) :=
    (List.perm_ext_iff_of_nodup (nodup_contents hmembers) (nodup_contents hothers)).mpr h
  have hsorted : ∀ list : List SourceMember,
      ((sortedMembers list).map SourceMember.content).Pairwise
      fun content other => content.name ≤ other.name :=
    fun list => List.pairwise_map.mpr (sorted_members_pairwise list)
  refine List.Perm.eq_of_pairwise ?_ (hsorted members) (hsorted others)
    ((((sorted_members_perm members).map _).trans hperm).trans
      ((sorted_members_perm others).symm.map _))
  intro content other hcontent hother hle hge
  obtain ⟨first, hfirst, rfl⟩ := List.mem_map.mp hcontent
  obtain ⟨last, hlast, rfl⟩ := List.mem_map.mp hother
  obtain ⟨middle, hmiddle, heq⟩ := List.mem_map.mp
    (hperm.mem_iff.mpr (List.mem_map_of_mem (mem_sorted_members.mp hlast)))
  have hname : first.name = middle.name := by
    rw [show middle.name = last.name from congrArg Content.name heq]
    exact le_antisymm hle hge
  rw [eq_of_name_eq hmembers (mem_sorted_members.mp hfirst) hmiddle hname, heq]

/-- Sorted by name, the same contents have the same names, kinds and bytes. -/
theorem sorted_shapes_eq (hmembers : (members.map SourceMember.name).Nodup)
    (hothers : (others.map SourceMember.name).Nodup) (h : SameContents members others) :
    (sortedMembers members).map SourceMember.shape =
      (sortedMembers others).map SourceMember.shape := by
  have hcontents := congrArg
    (List.map fun content : Content => (content.name, content.directory, content.bytes))
    (sorted_contents_eq hmembers hothers h)
  rw [List.map_map, List.map_map] at hcontents
  exact hcontents

/-- Members at one place of two sorted lists with the same contents. -/
theorem exists_partner (hmembers : (members.map SourceMember.name).Nodup)
    (hothers : (others.map SourceMember.name).Nodup) (h : SameContents members others) {index : Nat}
    (hmember : (sortedMembers members)[index]? = some member) :
    ∃ other, (sortedMembers others)[index]? = some other ∧ other ∈ others ∧
      member.content = other.content := by
  have hindex := congrArg (·[index]?) (sorted_contents_eq hmembers hothers h)
  simp only [List.getElem?_map, hmember, Option.map_some] at hindex
  obtain ⟨other, hother, heq⟩ := Option.map_eq_some_iff.mp hindex.symm
  exact ⟨other, hother, mem_sorted_members.mp (List.mem_of_getElem? hother), heq.symm⟩

/-- A canonical member is made of its contents and its type code. -/
theorem canonical_member_congr {other : SourceMember} (hcontent : member.content = other.content)
    (htype : member.typeflag = other.typeflag) :
    canonicalMember member = canonicalMember other := by
  obtain ⟨hname, _, hexecutable, hbytes⟩ := Content.mk.inj hcontent
  have hmode : (member.typeflag.isFile = true ∧ member.executable = true) ↔
      (other.typeflag.isFile = true ∧ other.executable = true) := by
    rw [← Bool.and_eq_true, ← Bool.and_eq_true, hexecutable]
  unfold canonicalMember
  simp only [hmode]
  simp only [hname, hbytes, htype]

/-- A member whose name is stored as it is reads back with its type code. -/
theorem read_back_stored {format : SdistFormat File}
    (h : format.storedName member.typeflag member.name = member.name) :
    format.readBack (canonicalMember member) =
      { name := member.name
        typeflag := member.typeflag
        mode := (canonicalMember member).mode
        payload := some (if member.typeflag = .sparse then [] else member.bytes) } := by
  unfold SdistFormat.readBack
  rw [show (canonicalMember member).name = member.name from rfl,
    show (canonicalMember member).typeflag = member.typeflag from rfl, h]
  rfl

theorem bytes_of_not_file (h : member.typeflag.isFile = false) : member.bytes = [] := by
  rw [SourceMember.bytes, h]
  rfl

/-- The bytes that are read back of an entry are its member's, unless the member is sparse. -/
theorem read_back_bytes {format : SdistFormat File}
    (h : format.storedName member.typeflag member.name = member.name) :
    (format.readBack (canonicalMember member)).bytes =
      if member.typeflag = .sparse then [] else member.bytes := by
  rw [read_back_stored h, SourceMember.bytes]
  cases hfile : member.typeflag.isFile with
  | false => rw [if_neg Bool.false_ne_true, bytes_of_not_file hfile, ite_self]
  | true => rfl

/-- A canonical member reads back as it was when tar stores its name and it is not a sparse member
with bytes. -/
theorem read_back_shape (format : SdistFormat File) (member : SourceMember) :
    (format.readBack (canonicalMember member)).shape = member.shape ↔
      format.storedName member.typeflag member.name = member.name ∧
        (member.typeflag = .sparse → member.bytes = []) := by
  constructor
  · intro h
    obtain ⟨hname, hrest⟩ := Prod.mk.inj h
    refine ⟨hname, fun hsparse => ?_⟩
    rw [← (Prod.mk.inj hrest).2, read_back_bytes hname, if_pos hsparse]
  · rintro ⟨hname, hsparse⟩
    refine Prod.ext ?_ (Prod.ext ?_ ?_)
    · exact hname
    · show (format.readBack (canonicalMember member)).typeflag.isDir = _
      rw [read_back_stored hname]
      rfl
    · show (format.readBack (canonicalMember member)).bytes = member.bytes
      rw [read_back_bytes hname]
      split
      · next h => exact (hsparse h).symm
      · rfl

/-- A member that reads back as it was has the same canonical member. -/
theorem canonical_read_back {format : SdistFormat File}
    (hname : format.storedName member.typeflag member.name = member.name)
    (hsparse : member.typeflag = .sparse → member.bytes = []) :
    canonicalMember (format.readBack (canonicalMember member)) = canonicalMember member := by
  have hshape := (read_back_shape format member).mpr ⟨hname, hsparse⟩
  have hbytes : (format.readBack (canonicalMember member)).bytes = member.bytes :=
    congrArg (fun shape => shape.2.2) hshape
  have htype : (format.readBack (canonicalMember member)).typeflag = member.typeflag := by
    rw [read_back_stored hname]
  have hmode : (format.readBack (canonicalMember member)).mode = (canonicalMember member).mode :=
    rfl
  refine canonical_member_congr ?_ htype
  unfold SourceMember.content
  rw [hbytes, htype]
  congr 1
  -- the bits of a canonical mode say whether a file is executable
  cases hfile : member.typeflag.isFile with
  | false => rfl
  | true =>
      have hdir : member.typeflag.isDir = false := by
        cases htypeflag : member.typeflag <;> rw [htypeflag] at hfile <;> first | rfl | cases hfile
      rw [SourceMember.executable, hmode, canonicalMember, hfile, hdir]
      cases member.executable <;> simp

/-! ## One form -/

/-- What is said of two archives with the same contents. -/
structure OneForm (format : SdistFormat File) (epoch : Int) (members : List SourceMember)
    (out other : File) : Prop where
  identical : out = other
  idempotent : canonicalFile format epoch out = .ok out
  unchanged : ∃ back, format.read out = .ok back ∧
    back.map SourceMember.shape = (sortedMembers members).map SourceMember.shape

/-- Two archives have the same form: what decides whether their outputs agree. -/
structure SameForm (format : SdistFormat File) (members others : List SourceMember) : Prop where
  types : ∀ member ∈ members, ∀ other ∈ others, member.name = other.name →
    member.typeflag = other.typeflag
  sparse : ∀ member ∈ members, member.typeflag = .sparse → member.bytes = []
  stored : ∀ member ∈ members, format.storedName member.typeflag member.name = member.name
  kept : ∀ member ∈ members, ¬ ReadsAsDirectory member.typeflag member.name

/-- A canonical archive reads back member by member when none reads as a directory. -/
theorem read_canonical (format : SdistFormat File) {epoch : Int} (hlate : epoch < 2 ^ 32)
    (h : AcceptedMembers members)
    (hkept : ∀ member ∈ members, ¬ ReadsAsDirectory member.typeflag member.name) :
    format.read (format.write epoch.toNat ((sortedMembers members).map canonicalMember)) =
      .ok ((sortedMembers members).map fun member => format.readBack (canonicalMember member)) := by
  rw [format.read_write, List.map_map]
  · rfl
  · omega
  · intro entry hentry
    obtain ⟨member, hmember, rfl⟩ := List.mem_map.mp hentry
    have hmem := mem_sorted_members.mp hmember
    exact ⟨(h.wellFormed member hmem).supported, hkept member hmem⟩

/-- A canonical archive that reads back with the names, kinds and bytes of its members has no member
that reads as a directory: the first one would. -/
theorem kept_of_shapes {format : SdistFormat File} {epoch : Int} {back : List SourceMember}
    (hlate : epoch < 2 ^ 32) (h : AcceptedMembers members)
    (hread : format.read (format.write epoch.toNat
      ((sortedMembers members).map canonicalMember)) = .ok back)
    (hshapes : back.map SourceMember.shape = (sortedMembers members).map SourceMember.shape) :
    ∀ member ∈ members, ¬ ReadsAsDirectory member.typeflag member.name := by
  cases hfind : (sortedMembers members).find? fun member =>
      decide (ReadsAsDirectory member.typeflag member.name) with
  | none =>
      intro member hmember
      simpa using List.find?_eq_none.mp hfind member (mem_sorted_members.mpr hmember)
  | some member =>
      obtain ⟨hmember, before, after, hsplit, hbefore⟩ := List.find?_eq_some_iff_append.mp hfind
      have hdirectory := of_decide_eq_true hmember
      have hplain : ∀ earlier ∈ before.map canonicalMember, earlier.Plain := by
        intro earlier hearlier
        obtain ⟨other, hother, rfl⟩ := List.mem_map.mp hearlier
        have hmem : other ∈ members :=
          mem_sorted_members.mp (hsplit ▸ List.mem_append_left _ hother)
        have hother : ¬ ReadsAsDirectory other.typeflag other.name := by
          simpa using hbefore other hother
        exact ⟨(h.wellFormed other hmem).supported, hother⟩
      rw [hsplit, List.map_append, List.map_cons] at hread
      obtain ⟨found, hfound, htype⟩ := format.read_directory _ _ _ _ _ (by omega) hplain hdirectory
        hread
      have hindex := congrArg (·[before.length]?) hshapes
      rw [List.length_map] at hfound
      simp only [hsplit, List.getElem?_map, hfound, Option.map_some,
        List.getElem?_append_right le_rfl, Nat.sub_self, List.getElem?_cons_zero,
        Option.some.injEq] at hindex
      have hkind : found.typeflag.isDir = member.typeflag.isDir :=
        congrArg (fun shape => shape.2.1) hindex
      rw [htype, hdirectory.1] at hkind
      cases hkind

/-- The canonical archives of the same contents under the same type codes. -/
theorem canonical_entries_congr (hmembers : (members.map SourceMember.name).Nodup)
    (hothers : (others.map SourceMember.name).Nodup) (h : SameContents members others)
    (htypes : ∀ member ∈ members, ∀ other ∈ others, member.name = other.name →
      member.typeflag = other.typeflag) :
    (sortedMembers members).map canonicalMember = (sortedMembers others).map canonicalMember := by
  refine List.ext_getElem? fun index => ?_
  rw [List.getElem?_map, List.getElem?_map]
  cases hmember : (sortedMembers members)[index]? with
  | some member =>
      obtain ⟨other, hother, hmem, hcontent⟩ := exists_partner hmembers hothers h hmember
      have htype := htypes member (mem_sorted_members.mp (List.mem_of_getElem? hmember)) other hmem
        (congrArg Content.name hcontent)
      rw [hother, Option.map_some, Option.map_some, canonical_member_congr hcontent htype]
  | none =>
      cases hother : (sortedMembers others)[index]? with
      | none => rfl
      | some other =>
          obtain ⟨member, hfound, _⟩ := exists_partner hothers hmembers
            (fun content => (h content).symm) hother
          rw [hmember] at hfound
          cases hfound

/-- Archives that are written to the same file carry the same type codes, where names are stored
as they are. -/
theorem types_of_read_back {format : SdistFormat File}
    (hmembers : (members.map SourceMember.name).Nodup)
    (hothers : (others.map SourceMember.name).Nodup) (h : SameContents members others)
    (hread : ((sortedMembers members).map fun member => format.readBack (canonicalMember member)) =
      (sortedMembers others).map fun member => format.readBack (canonicalMember member))
    (hstored : ∀ member ∈ members,
      format.storedName member.typeflag member.name = member.name) :
    ∀ member ∈ members, ∀ other ∈ others, member.name = other.name →
      member.typeflag = other.typeflag := by
  intro member hmember other hother hname
  obtain ⟨index, hindex⟩ := List.mem_iff_getElem?.mp (mem_sorted_members.mpr hmember)
  obtain ⟨partner, hpartner, hmem, hcontent⟩ := exists_partner hmembers hothers h hindex
  have hpartnerName : partner.name = member.name := (congrArg Content.name hcontent).symm
  obtain rfl := eq_of_name_eq hothers hmem hother (hpartnerName.trans hname)
  have hback := congrArg (·[index]?) hread
  simp only [List.getElem?_map, hindex, hpartner, Option.map_some, Option.some.injEq] at hback
  have hmemberStored := hstored member hmember
  have hpartnerStored : format.storedName partner.typeflag partner.name = partner.name :=
    (congrArg SourceMember.name hback).symm.trans (hmemberStored.trans hpartnerName.symm)
  rw [read_back_stored hmemberStored, read_back_stored hpartnerStored] at hback
  exact (SourceMember.mk.inj hback).2.1

/-- Sorting a canonical archive that reads back under its names changes nothing. -/
theorem sorted_read_back {format : SdistFormat File}
    (hstored : ∀ member ∈ members,
      format.storedName member.typeflag member.name = member.name) :
    sortedMembers ((sortedMembers members).map fun member =>
        format.readBack (canonicalMember member)) =
      (sortedMembers members).map fun member => format.readBack (canonicalMember member) := by
  refine List.Pairwise.insertionSort_eq (List.pairwise_map.mpr ?_)
  refine (sorted_members_pairwise members).imp_of_mem fun hmember hother hle => ?_
  show format.storedName _ _ ≤ format.storedName _ _
  rw [show format.storedName (canonicalMember _).typeflag (canonicalMember _).name = _ from
    hstored _ (mem_sorted_members.mp hmember), show format.storedName (canonicalMember _).typeflag
      (canonicalMember _).name = _ from hstored _ (mem_sorted_members.mp hother)]
  exact hle

/-- What reads back under its names and types is accepted again. -/
theorem accepted_read_back {format : SdistFormat File} (h : AcceptedMembers members)
    (hstored : ∀ member ∈ members,
      format.storedName member.typeflag member.name = member.name) :
    AcceptedMembers ((sortedMembers members).map fun member =>
      format.readBack (canonicalMember member)) := by
  have hback : ∀ back ∈ (sortedMembers members).map fun member =>
      format.readBack (canonicalMember member), ∃ member ∈ members, back.name = member.name ∧
        back.typeflag = member.typeflag ∧ back.payload.isSome = true := by
    intro back hback
    obtain ⟨member, hmember, rfl⟩ := List.mem_map.mp hback
    have hmem := mem_sorted_members.mp hmember
    refine ⟨member, hmem, ?_⟩
    rw [read_back_stored (hstored member hmem)]
    exact ⟨rfl, rfl, rfl⟩
  have hparts : ∀ {back member : SourceMember}, back.name = member.name →
      back.parts = member.parts := fun hname => by rw [SourceMember.parts, hname]; rfl
  obtain ⟨result, hroot⟩ := h.root
  refine ⟨?_, ?_, ⟨result, ?_⟩, ?_, ?_⟩
  · intro hempty
    have hlength := congrArg List.length hempty
    rw [List.length_map, (sorted_members_perm members).length_eq] at hlength
    exact h.nonempty (List.length_eq_zero_iff.mp hlength)
  · intro back hmem
    obtain ⟨member, hmember, hname, htype, _⟩ := hback back hmem
    have hformed := h.wellFormed member hmember
    exact ⟨hname ▸ hformed.nonempty, hname ▸ hformed.relative, hname ▸ hformed.noBackslash,
      hparts hname ▸ hformed.noParent, htype ▸ hformed.supported⟩
  · intro back hmem
    obtain ⟨member, hmember, hname, _, _⟩ := hback back hmem
    rw [hparts hname]
    exact hroot member hmember
  · have hnames : ((sortedMembers members).map fun member =>
        format.readBack (canonicalMember member)).map SourceMember.name =
          (sortedMembers members).map SourceMember.name := by
      rw [List.map_map]
      exact List.map_congr_left fun member hmember =>
        hstored member (mem_sorted_members.mp hmember)
    rw [hnames]
    exact ((sorted_members_perm members).map _).nodup_iff.mpr h.nodup
  · intro back hmem _
    obtain ⟨_, _, _, _, hpayload⟩ := hback back hmem
    exact hpayload

/-- Two accepted archives with the same contents have one canonical form, which is its own canonical
form and reads back as it was, exactly when their members carry the same type codes, no sparse
member carries bytes, and tar stores every name as it is and takes no file for a directory. -/
theorem one_form_iff (format : SdistFormat File) {epoch : Int} {file file' out out' : File}
    {members others : List SourceMember} (hread : format.read file = .ok members)
    (hread' : format.read file' = .ok others) (hout : canonicalFile format epoch file = .ok out)
    (hout' : canonicalFile format epoch file' = .ok out') (hsame : SameContents members others) :
    OneForm format epoch members out out' ↔ SameForm format members others := by
  obtain ⟨hzero, hlate, found, hfound, haccepted, rfl⟩ := canonical_file_eq_ok.mp hout
  obtain ⟨_, _, found', hfound', haccepted', rfl⟩ := canonical_file_eq_ok.mp hout'
  cases hread.symm.trans hfound
  cases hread'.symm.trans hfound'
  constructor
  · rintro ⟨hidentical, _, back, hbackRead, hshapes⟩
    have hkept := kept_of_shapes hlate haccepted hbackRead hshapes
    have hkept' := kept_of_shapes hlate haccepted' (hidentical ▸ hbackRead)
      (hshapes.trans (sorted_shapes_eq haccepted.nodup haccepted'.nodup hsame))
    have hback := read_canonical format hlate haccepted hkept
    cases hback.symm.trans hbackRead
    rw [List.map_map, List.map_inj_left] at hshapes
    have hshape : ∀ member ∈ members, format.storedName member.typeflag member.name = member.name ∧
        (member.typeflag = .sparse → member.bytes = []) := fun member hmember =>
      (read_back_shape format member).mp (hshapes member (mem_sorted_members.mpr hmember))
    have hboth := congrArg format.read hidentical
    rw [hback, read_canonical format hlate haccepted' hkept'] at hboth
    exact ⟨types_of_read_back haccepted.nodup haccepted'.nodup hsame (Except.ok.inj hboth)
      fun member hmember => (hshape member hmember).1,
        fun member hmember => (hshape member hmember).2,
      fun member hmember => (hshape member hmember).1, hkept⟩
  · intro h
    have hback := read_canonical format hlate haccepted h.kept
    refine ⟨?_, ?_, _, hback, ?_⟩
    · rw [canonical_entries_congr haccepted.nodup haccepted'.nodup hsame h.types]
    · refine canonical_file_eq_ok.mpr ⟨hzero, hlate, _, hback,
        accepted_read_back haccepted h.stored, ?_⟩
      rw [sorted_read_back h.stored, List.map_map]
      refine congrArg (format.write epoch.toNat) (List.map_congr_left fun member hmember => ?_)
      have hmem := mem_sorted_members.mp hmember
      exact (canonical_read_back (h.stored member hmem) (h.sparse member hmem)).symm
    · rw [List.map_map]
      refine List.map_congr_left fun member hmember => ?_
      have hmem := mem_sorted_members.mp hmember
      exact (read_back_shape format member).mpr ⟨h.stored member hmem, h.sparse member hmem⟩

end NvidiaConverge
