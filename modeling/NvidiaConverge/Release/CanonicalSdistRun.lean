import NvidiaConverge.Library.Triple
import NvidiaConverge.Release.CanonicalSdist

/-!
# Rewriting a source distribution in place

`canonicalize_sdist` as the calls that it makes: the archive is read, its canonical form is written
to a temporary file beside it, and the temporary file is renamed over it. `canonical_sdist` puts
every run of it beside `one_form_iff`.
-/

namespace NvidiaConverge.SdistRun

open Program (Outcome Triple onError raiseIf ofExcept)

variable {File : Type}

/-! ## The calls -/

/-- A call of the canonicalization on the file system. -/
inductive SdistOp (File : Type) where
  | lstat
  /-- `path.is_file()` and not `path.is_symlink()`. -/
  | isRegular
  /-- `tarfile.open` and `getmembers`. -/
  | readArchive
  /-- `tempfile.NamedTemporaryFile`. -/
  | createTemporary
  | writeTemporary (file : File)
  /-- Flushing, syncing and closing the temporary file. -/
  | syncTemporary
  | closeArchive
  | chmodTemporary (mode : Nat)
  | replace
  | unlinkTemporary

/-- What a call returns when it does not fail. -/
@[reducible] def SdistOp.Value : SdistOp File → Type
  | .lstat => Nat
  | .isRegular => Bool
  | .readArchive => List SourceMember
  | _ => Unit

/-- The answer to a call: its value or a message. -/
abbrev SdistOp.Reply (op : SdistOp File) : Type :=
  Except String op.Value

/-- The programs over these calls. -/
abbrev SdistProgram (File : Type) := Program (SdistOp File) SdistOp.Reply String

/-- Make one call of the canonicalization. -/
abbrev call (op : SdistOp File) : SdistProgram File op.Value :=
  Program.call op

/-- The steps behind the creation of the temporary file. -/
def fillAndReplace (format : SdistFormat File) (epoch : Int) (mode : Nat)
    (members : List SourceMember) : SdistProgram File Unit := do
  raiseIf (2 ^ 32 ≤ epoch) "argument out of range"
  let entries ← ofExcept (canonicalEntries members)
  call (.writeTemporary (format.write epoch.toNat entries))
  call .syncTemporary
  call .closeArchive
  call (.chmodTemporary (mode &&& 0o777))
  call .replace

/-- `canonicalize_sdist`: the archive is read, checked and replaced by its canonical form. -/
def canonicalizeSdist (format : SdistFormat File) (epoch : Int) : SdistProgram File Unit := do
  raiseIf (epoch < 0) "source epoch must be non-negative"
  let mode : Nat ← call .lstat
  let regular : Bool ← call .isRegular
  raiseIf (regular = false) "source distribution must be a regular nonsymlink file"
  let members : List SourceMember ← call .readArchive
  raiseIf (members = []) "source distribution is empty"
  ofExcept (validateMembers none [] members)
  call .createTemporary
  onError (fillAndReplace format epoch mode members) (call .unlinkTemporary)

/-! ## The answers -/

/-- A source distribution and its directory: the temporary file beside it has contents once they
have all been written; `unlinkFailed` records that its removal was tried and failed. -/
structure SdistState (File : Type) where
  archive : File
  mode : Nat
  temporary : Option (Option File × Nat) := none
  unlinkFailed : Bool := false

/-- The answers in a directory: a call that fails leaves it as it is, except that a failing write
leaves a part. -/
def answers (format : SdistFormat File) (state : SdistState File) :
    (op : SdistOp File) → op.Reply → SdistState File → Prop
  | .lstat, .ok mode, after => mode = state.mode ∧ after = state
  | .readArchive, .ok members, after => format.read state.archive = .ok members ∧ after = state
  | .createTemporary, .ok _, after => after = { state with temporary := some (none, 0o600) }
  | .writeTemporary file, .ok _, after =>
      after = { state with temporary := state.temporary.map fun held => (some file, held.2) }
  | .writeTemporary _, .error _, after =>
      after = { state with temporary := state.temporary.map fun held => (none, held.2) }
  | .chmodTemporary mode, .ok _, after =>
      after = { state with temporary := state.temporary.map fun held => (held.1, mode) }
  | .replace, .ok _, after =>
      ∃ file mode, state.temporary = some (some file, mode) ∧
        after = { state with archive := file, mode := mode, temporary := none }
  | .unlinkTemporary, .ok _, after => after = { state with temporary := none }
  | .unlinkTemporary, .error _, after => after = { state with unlinkFailed := true }
  | _, _, after => after = state

/-! ## Where a run stands -/

/-- The archive and its mode are as they were. -/
def Unchanged (start state : SdistState File) : Prop :=
  state.archive = start.archive ∧ state.mode = start.mode

/-- The archive is its canonical form, and nothing lies beside it. -/
def Canonical (format : SdistFormat File) (epoch : Int) (start state : SdistState File) : Prop :=
  canonicalFile format epoch start.archive = .ok state.archive ∧
    state.mode = start.mode &&& 0o777 ∧ state.temporary = none

/-- The archive is unchanged and nothing lies beside it, unless the removal failed. -/
def RaisedClean (start state : SdistState File) : Prop :=
  Unchanged start state ∧ (state.temporary = none ∨ state.unlinkFailed = true)

/-- The archive is as it was, or in its canonical form. -/
def OneOrOther (format : SdistFormat File) (epoch : Int) (start state : SdistState File) : Prop :=
  Unchanged start state ∨ Canonical format epoch start state

/-- How a run ends, at whatever call it is cut off. -/
def SdistEnds (format : SdistFormat File) (epoch : Int) (start : SdistState File) :
    Outcome String Unit → SdistState File → Prop
  | .interrupted, state => OneOrOther format epoch start state
  | .raised _, state => RaisedClean start state
  | .returned _, state => Canonical format epoch start state

section Runs

variable {format : SdistFormat File} {epoch : Int} {start : SdistState File}

/-- The archive is unchanged, and there is a temporary file beside it. -/
def Staged (start : SdistState File) (shows : Option File × Nat → Prop)
    (state : SdistState File) : Prop :=
  Unchanged start state ∧ ∃ held, shows held ∧ state.temporary = some held

theorem Staged.mono {shows shows' : Option File × Nat → Prop} {state : SdistState File}
    (h : Staged start shows state) (himp : ∀ held, shows held → shows' held) :
    Staged start shows' state :=
  ⟨h.1, h.2.choose, himp _ h.2.choose_spec.1, h.2.choose_spec.2⟩

/-- A call that leaves the directory as it is. -/
def SdistOp.quiet : SdistOp File → Bool
  | .lstat | .isRegular | .readArchive | .syncTemporary | .closeArchive => true
  | _ => false

theorem quiet_answer {op : SdistOp File} {reply : op.Reply} {state after : SdistState File}
    (h : op.quiet = true) (hanswer : answers format state op reply after) : after = state := by
  cases op with
  | isRegular | syncTemporary | closeArchive => exact hanswer
  | lstat | readArchive =>
      cases reply with
      | error error => exact hanswer
      | ok value => exact hanswer.2
  | createTemporary | writeTemporary | chmodTemporary | replace | unlinkTemporary => cases h

theorem triple_quiet (op : SdistOp File) (h : op.quiet = true)
    {keeps crash : SdistState File → Prop} (hcrash : ∀ state, keeps state → crash state) :
    Triple (answers format) keeps (call op) (fun _ => keeps) keeps crash :=
  Program.triple_call op (fun _ _ _ hpre hanswer => quiet_answer h hanswer ▸ hpre)
    (fun _ _ _ hpre hanswer => quiet_answer h hanswer ▸ hpre) hcrash (fun _ => hcrash) hcrash

theorem staged_unchanged {shows : Option File × Nat → Prop} (state : SdistState File)
    (h : Staged start shows state) : OneOrOther format epoch start state :=
  .inl h.1

/-- A call that changes the temporary file leaves it staged, changed or in part. -/
theorem triple_change (op : SdistOp File) {change partly : Option File × Nat → Option File × Nat}
    {shows shows' : Option File × Nat → Prop}
    (hok : ∀ state value after, answers format state op (.ok value) after →
      after = { state with temporary := state.temporary.map change })
    (herror : ∀ state error after, answers format state op (.error error) after →
      after = { state with temporary := state.temporary.map partly })
    (hchange : ∀ held, shows held → shows' (change held)) :
    Triple (answers format) (Staged start shows) (call op) (fun _ => Staged start shows')
      (Staged start fun _ => True) (OneOrOther format epoch start) := by
  refine Program.triple_call op ?_ ?_ staged_unchanged (fun _ => staged_unchanged) staged_unchanged
  · rintro state value after ⟨hsame, held, hheld, htemporary⟩ hanswer
    obtain rfl := hok state value after hanswer
    exact ⟨hsame, change held, hchange held hheld, by rw [htemporary]; rfl⟩
  · rintro state error after ⟨hsame, held, hheld, htemporary⟩ hanswer
    obtain rfl := herror state error after hanswer
    exact ⟨hsame, partly held, trivial, by rw [htemporary]; rfl⟩

theorem canonical_one_or_other (state : SdistState File) (h : Canonical format epoch start state) :
    OneOrOther format epoch start state :=
  .inr h

theorem raised_one_or_other (state : SdistState File) (h : RaisedClean start state) :
    OneOrOther format epoch start state :=
  .inl h.1

/-- The steps behind the creation of the temporary file. -/
theorem triple_fill_and_replace {members : List SourceMember} (hzero : ¬ epoch < 0)
    (hread : format.read start.archive = .ok members) (hne : members ≠ [])
    (hvalid : validateMembers none [] members = .ok ()) :
    Triple (answers format) (Staged start fun _ => True)
      (fillAndReplace format epoch start.mode members) (fun _ => Canonical format epoch start)
      (Staged start fun _ => True) (OneOrOther format epoch start) := by
  have hany : ∀ {shows : Option File × Nat → Prop} (state : SdistState File),
      Staged start shows state → Staged start (fun _ => True) state :=
    fun state h => h.mono fun _ _ => trivial
  refine (Program.triple_raise_if (fun _ h => h) staged_unchanged).bind fun _ => ?_
  by_cases hlate : 2 ^ 32 ≤ epoch
  · exact fun state h => absurd hlate h.2
  · cases hentries : canonicalEntries members with
    | error error => exact Program.triple_raise (fun _ h => h.1) fun _ h => .inl h.1.1
    | ok entries =>
        have hout : canonicalFile format epoch start.archive =
            .ok (format.write epoch.toNat entries) := by
          rw [canonicalFile, Result.refuse_of_not hzero, Result.ok_bind, hread, Result.ok_bind,
            Result.refuse_of_not hne, Result.ok_bind, hvalid, Result.ok_bind,
            Result.refuse_of_not hlate, Result.ok_bind, hentries]
          rfl
        have hwrite : Triple (answers format) (Staged start fun _ => True)
            (call (.writeTemporary (format.write epoch.toNat entries)))
            (fun _ => Staged start fun held => held.1 = some (format.write epoch.toNat entries))
            (Staged start fun _ => True) (OneOrOther format epoch start) :=
          triple_change _ (fun _ _ _ h => h) (fun _ _ _ h => h) fun _ _ => rfl
        have hquiet : ∀ (op : SdistOp File), op.quiet = true → Triple (answers format)
            (Staged start fun held => held.1 = some (format.write epoch.toNat entries)) (call op)
            (fun _ => Staged start fun held => held.1 = some (format.write epoch.toNat entries))
            (Staged start fun _ => True) (OneOrOther format epoch start) := fun op h =>
          (triple_quiet op h staged_unchanged).mono (fun _ h => h) (fun _ _ h => h) hany
            fun _ h => h
        have hchmod : Triple (answers format)
            (Staged start fun held => held.1 = some (format.write epoch.toNat entries))
            (call (.chmodTemporary (start.mode &&& 0o777)))
            (fun _ => Staged start fun held =>
              held = (some (format.write epoch.toNat entries), start.mode &&& 0o777))
            (Staged start fun _ => True) (OneOrOther format epoch start) :=
          triple_change _ (fun _ _ _ h => h)
            (fun state error after (h : after = state) => by rw [h, Option.map_id]; rfl)
            fun held h => Prod.ext h rfl
        have hreplace : Triple (answers format)
            (Staged start fun held =>
              held = (some (format.write epoch.toNat entries), start.mode &&& 0o777))
            (call .replace) (fun _ => Canonical format epoch start) (Staged start fun _ => True)
            (OneOrOther format epoch start) := by
          -- The rename is the only call that changes the archive: it alone leads to `Canonical`.
          refine Program.triple_call _ ?_ ?_ staged_unchanged (fun _ => canonical_one_or_other)
            staged_unchanged
          · rintro state _ after ⟨_, held, rfl, htemporary⟩ ⟨file, mode, hheld, rfl⟩
            cases htemporary.symm.trans hheld
            exact ⟨hout, rfl, rfl⟩
          · rintro state error after h hanswer
            obtain rfl : after = state := hanswer
            exact hany _ h
        show Triple _ _ (call (.writeTemporary (format.write epoch.toNat entries)) >>= fun _ => _)
          _ _ _
        refine (hwrite.mono (fun _ h => h.1) (fun _ _ h => h) (fun _ h => h) fun _ h => h).bind
          fun _ => ?_
        refine (hquiet .syncTemporary rfl).bind fun _ => ?_
        refine (hquiet .closeArchive rfl).bind fun _ => ?_
        exact hchmod.bind fun _ => hreplace

/-- The whole function: canonical where it returns, clean where it raises, one or the other at every
point. -/
theorem triple_canonicalize (format : SdistFormat File) (epoch : Int) (start : SdistState File) :
    Triple (answers format) (fun state => state = start ∧ start.temporary = none)
      (canonicalizeSdist format epoch) (fun _ => Canonical format epoch start) (RaisedClean start)
      (OneOrOther format epoch start) := by
  have hclear : ∀ state, state = start ∧ start.temporary = none → RaisedClean start state := by
    rintro _ ⟨rfl, htemporary⟩
    exact ⟨⟨rfl, rfl⟩, .inl htemporary⟩
  have hcrash : ∀ state, state = start ∧ start.temporary = none →
      OneOrOther format epoch start state :=
    fun state h => raised_one_or_other state (hclear state h)
  have hquiet : ∀ (op : SdistOp File), op.quiet = true → Triple (answers format)
      (fun state => state = start ∧ start.temporary = none) (call op)
      (fun _ state => state = start ∧ start.temporary = none) (RaisedClean start)
      (OneOrOther format epoch start) := fun op h =>
    (triple_quiet op h hcrash).mono (fun _ h => h) (fun _ _ h => h) hclear fun _ h => h
  -- Nothing lies beside the archive before `createTemporary`, so that every exit up to there is
  -- clean.
  refine (Program.triple_raise_if hclear hcrash).bind fun _ => ?_
  by_cases hzero : epoch < 0
  · exact fun state h => absurd hzero h.2
  have hlstat : Triple (answers format) (fun state =>
      (state = start ∧ start.temporary = none) ∧ ¬ epoch < 0) (call .lstat)
      (fun mode state => mode = start.mode ∧ state = start ∧ start.temporary = none)
      (RaisedClean start) (OneOrOther format epoch start) := by
    refine Program.triple_call _ ?_ ?_ (fun _ h => hcrash _ h.1) (fun _ _ h => hcrash _ h.2)
      raised_one_or_other
    · rintro _ mode after ⟨⟨rfl, htemporary⟩, _⟩ ⟨hmode, rfl⟩
      exact ⟨hmode, rfl, htemporary⟩
    · rintro state error after ⟨h, _⟩ hanswer
      obtain rfl : after = state := hanswer
      exact hclear _ h
  refine hlstat.bind fun mode => ?_
  by_cases hmode : mode = start.mode
  swap
  · exact fun state h => absurd h.1 hmode
  rw [hmode]
  refine ((hquiet .isRegular rfl).mono (fun _ h => h.2) (fun _ _ h => h) (fun _ h => h)
    fun _ h => h).bind fun regular => ?_
  refine (Program.triple_raise_if hclear hcrash).bind fun _ => ?_
  have hread : Triple (answers format)
      (fun state => (state = start ∧ start.temporary = none) ∧
        ¬ regular = false) (call .readArchive)
      (fun members state => format.read start.archive = .ok members ∧
        state = start ∧ start.temporary = none)
      (RaisedClean start) (OneOrOther format epoch start) := by
    refine Program.triple_call _ ?_ ?_ (fun _ h => hcrash _ h.1) (fun _ _ h => hcrash _ h.2)
      raised_one_or_other
    · rintro _ members after ⟨⟨rfl, htemporary⟩, _⟩ ⟨hmembers, rfl⟩
      exact ⟨hmembers, rfl, htemporary⟩
    · rintro state error after ⟨h, _⟩ hanswer
      obtain rfl : after = state := hanswer
      exact hclear _ h
  refine hread.bind fun members => ?_
  by_cases hmembers : format.read start.archive = .ok members
  swap
  · exact fun state h => absurd h.1 hmembers
  refine (Program.triple_raise_if (fun _ h => hclear _ h.2) fun _ h => hcrash _ h.2).bind
    fun _ => ?_
  by_cases hne : members = []
  · exact fun state h => absurd hne h.2
  cases hvalid : validateMembers none [] members with
  | error error => exact Program.triple_raise (fun _ h => hclear _ h.1.2) fun _ h => hcrash _ h.1.2
  | ok value =>
      have hcreate : Triple (answers format)
          (fun state => (format.read start.archive = .ok members ∧ state = start ∧
            start.temporary = none) ∧ ¬ members = []) (call .createTemporary)
          (fun _ => Staged start fun _ => True) (RaisedClean start)
          (OneOrOther format epoch start) := by
        refine Program.triple_call _ ?_ ?_ (fun _ h => hcrash _ h.1.2) (fun _ => staged_unchanged)
          raised_one_or_other
        · rintro _ _ after ⟨⟨_, rfl, _⟩, _⟩ hanswer
          obtain rfl := hanswer
          exact ⟨⟨rfl, rfl⟩, _, trivial, rfl⟩
        · rintro state error after ⟨⟨_, h⟩, _⟩ hanswer
          obtain rfl : after = state := hanswer
          exact hclear _ h
      have hunlink : Triple (answers format) (Staged start fun _ => True) (call .unlinkTemporary)
          (fun _ => RaisedClean start) (RaisedClean start) (OneOrOther format epoch start) := by
        refine Program.triple_call _ ?_ ?_ staged_unchanged (fun _ => raised_one_or_other)
          raised_one_or_other
        · rintro state _ after ⟨hsame, _⟩ hanswer
          obtain rfl := hanswer
          exact ⟨hsame, .inl rfl⟩
        · rintro state error after ⟨hsame, _⟩ hanswer
          obtain rfl := hanswer
          exact ⟨hsame, .inr rfl⟩
      show Triple _ _ (call .createTemporary >>= fun _ => _) _ _ _
      refine hcreate.bind fun _ => ?_
      -- Whatever raises behind it, the temporary file is unlinked, or the unlink itself has failed.
      exact (triple_fill_and_replace hzero hmembers hne hvalid).on_error hunlink (fun _ h => h)
        raised_one_or_other

end Runs

/-- Two accepted archives with the same contents have one canonical form, which is its own canonical
form and reads back as it was, exactly when their members carry the same type codes, no sparse
member carries bytes, and tar stores every name as it is and takes no file for a directory; and
every run of `canonicalize_sdist` leaves its archive as it was or replaces it by its canonical form,
and raises only in the first case, with nothing beside it unless the removal of the temporary file
failed. -/
theorem canonical_sdist (format : SdistFormat File) (epoch : Int) :
    (∀ file file' out out' members others, format.read file = .ok members →
      format.read file' = .ok others → canonicalFile format epoch file = .ok out →
      canonicalFile format epoch file' = .ok out' → SameContents members others →
      (OneForm format epoch members out out' ↔ SameForm format members others)) ∧
    ∀ (start : SdistState File) outcome state, start.temporary = none →
      Program.Runs (answers format) (canonicalizeSdist format epoch) start outcome state →
        SdistEnds format epoch start outcome state := by
  refine ⟨?_, fun start outcome state htemporary hruns => ?_⟩
  · intro file file' out out' members others hread hread' hout hout' hsame
    exact one_form_iff format hread hread' hout hout' hsame
  · have h := (triple_canonicalize format epoch start start ⟨rfl, htemporary⟩).runs hruns
    cases outcome with
    | interrupted => exact h
    | raised error => exact h
    | returned value => exact h

/-- Archives as their epoch and their entries, which read back as they are written but for the
files that tar takes for directories. -/
def plainFormat : SdistFormat (Nat × List TarEntry) where
  read file := .ok (file.2.map fun entry =>
    { name := entry.name
      typeflag := if ReadsAsDirectory entry.typeflag entry.name then .directory else entry.typeflag
      mode := entry.mode
      payload := some (if entry.typeflag = .sparse then [] else entry.data) })
  write epoch entries := (epoch, entries)
  storedName _ name := name
  read_write := by
    intro epoch entries _ hplain
    refine congrArg Except.ok (List.map_congr_left fun entry hentry => ?_)
    rw [if_neg (hplain entry hentry).kept]
  read_directory := by
    intro epoch before entry after members _ _ hdirectory hread
    obtain rfl := Except.ok.inj hread
    simp [hdirectory]

/-- A module and its directory, in two orders and under other modes, have one canonical form. -/
theorem canonical_sdist_sample :
    OneForm plainFormat 1700000000
      [⟨"pkg", .directory, 0o775, some []⟩, ⟨"pkg/a.py", .regular, 0o664, some [1]⟩]
      (1700000000, [⟨"pkg", .directory, 0o755, []⟩, ⟨"pkg/a.py", .regular, 0o644, [1]⟩])
      (1700000000, [⟨"pkg", .directory, 0o755, []⟩, ⟨"pkg/a.py", .regular, 0o644, [1]⟩]) := by
  refine ((canonical_sdist plainFormat 1700000000).1
    (1, [⟨"pkg", .directory, 0o775, []⟩, ⟨"pkg/a.py", .regular, 0o664, [1]⟩])
    (2, [⟨"pkg/a.py", .regular, 0o600, [1]⟩, ⟨"pkg", .directory, 0o700, []⟩])
    _ _ _ [⟨"pkg/a.py", .regular, 0o600, some [1]⟩, ⟨"pkg", .directory, 0o700, some []⟩] rfl rfl
    ?_ ?_ ?_).mpr ⟨?_, ?_, ?_, ?_⟩
  · decide +kernel
  · decide +kernel
  · exact fun content => (List.Perm.swap _ _ _).mem_iff
  · decide
  · decide
  · exact fun _ _ => rfl
  · decide

/-- The same file under the code of a regular file and under that of a contiguous one: both
archives are accepted, and their canonical forms differ in this code. -/
theorem type_code_survives :
    let regular : Nat × List TarEntry := (0, [⟨"pkg/a.py", .regular, 0o644, [1]⟩])
    let contiguous : Nat × List TarEntry := (0, [⟨"pkg/a.py", .contiguous, 0o644, [1]⟩])
    (plainFormat.read regular).map (·.map SourceMember.content) =
      (plainFormat.read contiguous).map (·.map SourceMember.content) ∧
    canonicalFile plainFormat 5 regular =
      .ok (5, [⟨"pkg/a.py", .regular, 0o644, [1]⟩]) ∧
    canonicalFile plainFormat 5 contiguous =
      .ok (5, [⟨"pkg/a.py", .contiguous, 0o644, [1]⟩]) ∧
    canonicalFile plainFormat 5 regular ≠ canonicalFile plainFormat 5 contiguous := by
  decide +kernel

end NvidiaConverge.SdistRun
