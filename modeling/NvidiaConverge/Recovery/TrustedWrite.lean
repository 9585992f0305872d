import NvidiaConverge.Library.Text
import NvidiaConverge.Library.Triple

/-!
# Trusted replacement of a file

`atomic_write_text_trusted` of `files.py` as the calls that it makes in a directory: a temporary
file is created, filled and synced, and renamed over the target. The environment answers each call
as it likes; `trusted_replacement` says what every sequence of answers leaves in the directory,
provided that the temporary file's descriptor closes in the `finally` block.
-/

namespace NvidiaConverge.TrustedWrite

open Program (Ensures Outcome Triple onError raiseIf)

/-! ## The directory and the calls -/

/-- A file: `synced` says whether its bytes and its mode are durable. -/
structure FileNode where
  regular : Bool
  links : Nat
  uid : Nat
  mode : Nat
  bytes : List UInt8
  synced : Bool
  deriving DecidableEq

/-- What `os.stat` shows of a file: its kind, its links, its owner and its mode. -/
structure TargetStatus where
  regular : Bool
  links : Nat
  uid : Nat
  mode : Nat
  deriving DecidableEq

def FileNode.status (node : FileNode) : TargetStatus :=
  ⟨node.regular, node.links, node.uid, node.mode⟩

/-- The directory of the target; `unlinkFailed` records that the removal of the temporary file was
tried and failed. -/
structure DirectoryState where
  files : String → Option FileNode
  synced : Bool := true
  unlinkFailed : Bool := false

/-- What a call or a check of the trusted write raises. -/
inductive TrustedError where
  | value (message : String)
  | os (message : String)
  | boundedFile (message : String)
  | unicodeEncode

/-- A call; those on the open temporary file name it. -/
inductive TrustedOp where
  /-- `_open_bound_parent`. -/
  | openParent
  /-- `_stat_bound_target`. -/
  | statTarget
  /-- `os.open` with `O_CREAT | O_EXCL`: whether the name was free. -/
  | create (name : String)
  | fchmod (name : String) (mode : Nat)
  | write (name : String) (payload : List UInt8)
  | fsync (name : String)
  /-- `os.close` of the temporary file's descriptor, in the `try` or in the `finally` block. -/
  | close (inFinally : Bool)
  /-- `_verify_bound_parent`. -/
  | verifyParent
  /-- `os.replace` of the target. -/
  | replace (name : String)
  /-- `os.fsync` of the directory. -/
  | fsyncDirectory
  /-- `os.unlink`: whether there was a file. -/
  | unlink (name : String)
  /-- `os.close` of the directory's descriptor. -/
  | closeParent

/-- What a call returns when it does not fail. -/
@[reducible] def TrustedOp.Value : TrustedOp → Type
  | .statTarget => Option TargetStatus
  | .create _ | .unlink _ => Bool
  | .write .. => Nat
  | _ => Unit

/-- The answer to a call: its value or the exception that it raises. -/
abbrev TrustedOp.Reply (op : TrustedOp) : Type :=
  Except TrustedError op.Value

/-- The programs over the calls of the trusted write. -/
abbrev TrustedProgram := Program TrustedOp TrustedOp.Reply TrustedError

/-- Make one call of the trusted write. -/
abbrev call (op : TrustedOp) : TrustedProgram op.Value :=
  Program.call op

/-! ## The program -/

/-- The arguments, with what `text.encode` gives, which is nothing for a lone surrogate, and the
tokens that `secrets.token_hex` gives. -/
structure TrustedRequest where
  target : String
  encoded : Option (List UInt8)
  mode : Int
  requiredOwnerUid : Nat
  deterministicTemporaryName : Option String := none
  tokens : List String := []

variable (request : TrustedRequest)

/-- The names that are tried for the temporary file. -/
def TrustedRequest.candidates : List String :=
  match request.deterministicTemporaryName with
  | some name => [name]
  | none => request.tokens.map fun token => "." ++ request.target ++ "." ++ token

/-- The temporary name is not one safe path component. -/
def unsafeTemporaryName (name : String) : Bool :=
  ["", ".", ".."].contains name || name.toList.contains '/' ||
    name.toList.contains (Char.ofNat 0) || 255 < (Text.utf8 name).length

/-- The first candidate whose name is free is created, as `tempfile` tries its random names. -/
def allocate : List String → TrustedProgram String
  | [] => .raise (.os "cannot allocate trusted temporary file")
  | candidate :: candidates => do
      let created : Bool ← call (.create candidate)
      if created = true then pure candidate else allocate candidates

/-- The checks before the first write, and the creation of the temporary file. -/
def createTemporary : TrustedProgram String := do
  let metadata : Option TargetStatus ← call .statTarget
  raiseIf (∃ status ∈ metadata, status.regular = false ∨ status.links ≠ 1)
    (.os "managed state target is not a singly linked regular file")
  raiseIf (∃ name ∈ request.deterministicTemporaryName, unsafeTemporaryName name = true)
    (.value "trusted temporary name must be one safe path component")
  allocate request.candidates

/-- The loop of writes. A call may write a part, and one that writes nothing is an error. -/
def writePayload (name : String) (payload : List UInt8) : TrustedProgram Unit :=
  if _hmore : payload = [] then pure ()
  else do
    let count : Nat ← call (.write name payload)
    if _hcount : count = 0 then .raise (.os "short write to trusted temporary file")
    else writePayload name (payload.drop count)
  termination_by payload.length
  decreasing_by
    have hlength := List.length_pos_iff.mpr _hmore
    rw [List.length_drop]
    omega

/-- The temporary file gets its mode and its bytes, and is flushed and closed. -/
def fillTemporary (name : String) : TrustedProgram Unit := do
  call (.fchmod name request.mode.toNat)
  match request.encoded with
  | none => .raise .unicodeEncode
  | some payload => do
      writePayload name payload
      call (.fsync name)
      call (.close false)

/-- The rename over the target, behind a check of the parent directory. -/
def replaceTarget (name : String) : TrustedProgram Unit := do
  call .verifyParent
  call (.replace name)

/-- The checks behind the rename: the directory is flushed and the target's status compared. -/
def confirmTarget : TrustedProgram Unit := do
  call .fsyncDirectory
  let metadata : Option TargetStatus ← call .statTarget
  raiseIf (metadata ≠ some ⟨true, 1, request.requiredOwnerUid, request.mode.toNat⟩)
    (.boundedFile "managed state target metadata changed during trusted replacement")
  call .verifyParent

/-- The descriptor is closed if it is still open. -/
def closeFile (fileOpen : Bool) : TrustedProgram Unit :=
  if fileOpen = true then call (.close true) else pure ()

/-- The temporary name, while it is set; a file that is gone already is no error. -/
def unlinkTemporary : Option String → TrustedProgram Unit
  | some name => do
      let _ : Bool ← call (.unlink name)
      pure ()
  | none => pure ()

/-- The `finally` block: the descriptor, the temporary file and the parent are released. -/
def cleanUp (fileOpen : Bool) (temporaryName : Option String) : TrustedProgram Unit := do
  closeFile fileOpen
  unlinkTemporary temporaryName
  call .closeParent

/-- `atomic_write_text_trusted`: the new text replaces the target in one rename, or the target
stays. -/
def atomicWriteTextTrusted : TrustedProgram Unit := do
  raiseIf (request.mode < 0 ∨ 0o777 < request.mode)
    (.value "trusted file mode must be between 0000 and 0777")
  call .openParent
  let name ← onError (createTemporary request) (cleanUp false none)
  onError (fillTemporary request name) (cleanUp true (some name))
  onError (replaceTarget name) (cleanUp false (some name))
  onError (confirmTarget request) (cleanUp false none)
  cleanUp false none

/-! ## The answers -/

namespace DirectoryState

/-- The directory with a file written under a name. -/
def put (state : DirectoryState) (name : String) (node : FileNode) : DirectoryState :=
  { state with files := Function.update state.files name (some node) }

/-- The open file changes, and nothing else does. -/
def Changes (state after : DirectoryState) (name : String) (change : FileNode → FileNode) : Prop :=
  ∃ node, state.files name = some node ∧ after = state.put name (change node)

/-- The answers in a directory: a call that fails leaves it as it is, except that a failing write
may have written a part. -/
def answers (target : String) (state : DirectoryState) :
    (op : TrustedOp) → op.Reply → DirectoryState → Prop
  | .statTarget, .ok status, after =>
      status = (state.files target).map FileNode.status ∧ after = state
  | .create name, .ok true, after =>
      state.files name = none ∧
        ∃ uid, after = state.put name ⟨true, 1, uid, 0o600, [], false⟩
  | .create name, .ok false, after => state.files name ≠ none ∧ after = state
  | .fchmod name mode, .ok _, after =>
      state.Changes after name fun node => { node with mode := mode, synced := false }
  | .write name payload, .ok count, after =>
      count ≤ payload.length ∧ state.Changes after name fun node =>
        { node with bytes := node.bytes ++ payload.take count, synced := false }
  | .write name payload, .error _, after =>
      after = state ∨ ∃ count, state.Changes after name fun node =>
        { node with bytes := node.bytes ++ payload.take count, synced := false }
  | .fsync name, .ok _, after =>
      state.Changes after name fun node => { node with synced := true }
  | .replace name, .ok _, after =>
      ∃ node, state.files name = some node ∧
        after = { state with
          files := Function.update (Function.update state.files name none) target (some node)
          synced := false }
  | .fsyncDirectory, .ok _, after => after = { state with synced := true }
  | .unlink name, .ok true, after =>
      state.files name ≠ none ∧ after = { state with
        files := Function.update state.files name none
        synced := false }
  | .unlink name, .ok false, after => state.files name = none ∧ after = state
  | .unlink _, .error _, after => after = { state with unlinkFailed := true }
  | _, _, after => after = state

/-- The descriptor closes in the `finally` block. -/
def Closes : (op : TrustedOp) → op.Reply → Prop
  | .close true, .error _ => False
  | _, _ => True

/-- The answers of a directory on which every descriptor closes. -/
def closingAnswers (target : String) (state : DirectoryState) (op : TrustedOp) (reply : op.Reply)
    (after : DirectoryState) : Prop :=
  answers target state op reply after ∧ Closes op reply

end DirectoryState

open DirectoryState (answers closingAnswers)

/-! ## Where a run stands -/

/-- Before the creation of the temporary file. -/
def Untouched (start : String → Option FileNode) (state : DirectoryState) : Prop :=
  state.files = start ∧ state.unlinkFailed = false

/-- The temporary file is there, under a name that was free. -/
def Staged (start : String → Option FileNode) (target name : String) (shows : FileNode → Prop)
    (state : DirectoryState) : Prop :=
  state.unlinkFailed = false ∧ start name = none ∧ name ≠ target ∧
    ∃ node, shows node ∧ state.files = Function.update start name (some node)

/-- A regular file with exactly the new bytes and mode, both durable. -/
structure Replaces (request : TrustedRequest) (node : FileNode) : Prop where
  regular : node.regular = true
  bytes : request.encoded = some node.bytes
  mode : (node.mode : Int) = request.mode
  synced : node.synced = true

/-- The target is replaced, and nothing else has changed. -/
def Placed (request : TrustedRequest) (start : String → Option FileNode) (state : DirectoryState) :
    Prop :=
  state.unlinkFailed = false ∧
    ∃ node, Replaces request node ∧
      state.files = Function.update start request.target (some node)

/-- The target is the old file, untouched, or it is replaced. -/
def OldOrNew (request : TrustedRequest) (start : String → Option FileNode)
    (state : DirectoryState) : Prop :=
  state.files request.target = start request.target ∨
    ∃ node, state.files request.target = some node ∧ Replaces request node

/-- No name but the target has changed. -/
def NothingLeft (request : TrustedRequest) (start : String → Option FileNode)
    (state : DirectoryState) : Prop :=
  ∀ name, name ≠ request.target → state.files name = start name

/-- How a run that raises leaves the directory. -/
def RaisedWell (request : TrustedRequest) (start : String → Option FileNode)
    (state : DirectoryState) : Prop :=
  OldOrNew request start state ∧
    (state.unlinkFailed = true ∨ NothingLeft request start state)

section Phases

variable {request : TrustedRequest} {start : String → Option FileNode} {name target : String}
  {state : DirectoryState} {shows : FileNode → Prop}

/-- A directory that was not touched is as it may be where the function raises. -/
theorem Untouched.raised_well (h : Untouched start state) : RaisedWell request start state :=
  ⟨.inl (by rw [h.1]), .inr fun _ _ => by rw [h.1]⟩

/-- A directory with the new target is as it may be where the function raises. -/
theorem Placed.raised_well (h : Placed request start state) : RaisedWell request start state := by
  obtain ⟨_, node, hnode, hfiles⟩ := h
  refine ⟨.inr ⟨node, ?_, hnode⟩, .inr fun name hname => ?_⟩
  · rw [hfiles, Function.update_self]
  · rw [hfiles, Function.update_of_ne hname]

/-- While the temporary file is there, the target still has its old contents. -/
theorem Staged.old_or_new (h : Staged start request.target name shows state) :
    OldOrNew request start state := by
  obtain ⟨_, _, hname, node, _, hfiles⟩ := h
  exact .inl (by rw [hfiles, Function.update_of_ne hname.symm])

theorem Staged.mono {shows' : FileNode → Prop} (h : Staged start target name shows state)
    (himp : ∀ node, shows node → shows' node) : Staged start target name shows' state := by
  obtain ⟨hfailed, hfree, hname, node, hnode, hfiles⟩ := h
  exact ⟨hfailed, hfree, hname, node, himp node hnode, hfiles⟩

/-- The open file of a staged directory changes. -/
theorem Staged.changes {shows' : FileNode → Prop} {change : FileNode → FileNode}
    {after : DirectoryState} (h : Staged start target name shows state)
    (hchanges : state.Changes after name change)
    (himp : ∀ node, shows node → shows' (change node)) :
    Staged start target name shows' after := by
  obtain ⟨hfailed, hfree, hname, node, hnode, hfiles⟩ := h
  obtain ⟨node', hnode', rfl⟩ := hchanges
  rw [hfiles, Function.update_self] at hnode'
  cases hnode'
  refine ⟨hfailed, hfree, hname, change node, himp node hnode, ?_⟩
  show Function.update state.files name _ = _
  rw [hfiles, Function.update_idem]

/-! ## One call -/

/-- A call that is made where the descriptor closes. -/
theorem triple_closing_call (op : TrustedOp) {pre fail crash : DirectoryState → Prop}
    {post : op.Value → DirectoryState → Prop}
    (hok : ∀ state value after, pre state → answers target state op (.ok value) after →
      post value after)
    (herror : ∀ state error after, pre state → closingAnswers target state op (.error error) after →
      fail after)
    (hpre : ∀ state, pre state → crash state)
    (hpost : ∀ value state, post value state → crash state)
    (hfail : ∀ state, fail state → crash state) :
    Triple (closingAnswers target) pre (call op) post fail crash :=
  Program.triple_call op (fun state value after h hanswer => hok state value after h hanswer.1)
    herror hpre hpost hfail

/-- A call that leaves the directory as it is. -/
def TrustedOp.quiet : TrustedOp → Bool
  | .openParent | .statTarget | .close _ | .verifyParent | .closeParent => true
  | _ => false

theorem quiet_answer {op : TrustedOp} {reply : op.Reply} {after : DirectoryState}
    (h : op.quiet = true) (hanswer : answers target state op reply after) : after = state := by
  cases op with
  | openParent | verifyParent | close | closeParent => exact hanswer
  | statTarget =>
      cases reply with
      | error error => exact hanswer
      | ok status => exact hanswer.2
  | create | fchmod | write | fsync | replace | fsyncDirectory | unlink => cases h

theorem triple_quiet (op : TrustedOp) (h : op.quiet = true) {keeps crash : DirectoryState → Prop}
    (hcrash : ∀ state, keeps state → crash state) :
    Triple (closingAnswers target) keeps (call op) (fun _ => keeps) keeps crash :=
  triple_closing_call op (fun _ _ _ hpre hanswer => quiet_answer h hanswer ▸ hpre)
    (fun _ _ _ hpre hanswer => quiet_answer h hanswer.1 ▸ hpre) hcrash (fun _ => hcrash) hcrash

/-! ## The parts -/

/-- A directory in which only a staged file may have changed. -/
theorem staged_crash (state : DirectoryState)
    (h : Staged start request.target name shows state) : OldOrNew request start state :=
  h.old_or_new

/-- The file is regular and empty, as it was created. -/
def Fresh (node : FileNode) : Prop :=
  node.regular = true ∧ node.bytes = []

/-- A candidate is free when it is created, and it is not the target. -/
theorem triple_allocate (candidates : List String)
    (hne : ∀ candidate ∈ candidates, start candidate = none → candidate ≠ request.target) :
    Triple (closingAnswers request.target) (Untouched start) (allocate candidates)
      (fun name => Staged start request.target name Fresh) (Untouched start)
      (OldOrNew request start) := by
  have hcrash : ∀ state, Untouched start state → OldOrNew request start state :=
    fun state h => h.raised_well.1
  induction candidates with
  | nil => exact Program.triple_raise (fun _ h => h) hcrash
  | cons candidate candidates ih =>
      have hcreate : Triple (closingAnswers request.target) (Untouched start)
          (call (.create candidate))
          (fun created state => if created = true then
            Staged start request.target candidate Fresh state else Untouched start state)
          (Untouched start) (OldOrNew request start) := by
        refine triple_closing_call _ ?_ ?_ hcrash ?_ hcrash
        · rintro state (_ | _) after ⟨hfiles, hfailed⟩ hanswer
          · obtain ⟨_, rfl⟩ := hanswer
            exact ⟨hfiles, hfailed⟩
          · obtain ⟨hfree, uid, rfl⟩ := hanswer
            rw [hfiles] at hfree
            refine ⟨hfailed, hfree, hne candidate List.mem_cons_self hfree,
              ⟨true, 1, uid, 0o600, [], false⟩, ⟨rfl, rfl⟩, ?_⟩
            rw [← hfiles]
            rfl
        · rintro state error after hstate ⟨hanswer, -⟩
          obtain rfl : after = state := hanswer
          exact hstate
        · rintro (_ | _) state h
          · exact hcrash state h
          · exact Staged.old_or_new h
      refine hcreate.bind fun created => ?_
      show Triple _ _ (if created = true then _ else _) _ _ _
      cases created with
      | false => exact ih fun other hother => hne other (List.mem_cons_of_mem _ hother)
      | true => exact Program.triple_pure (fun _ h => h) fun _ h => Staged.old_or_new h

/-- A random name is longer than the target's. -/
theorem candidate_ne {candidate : String}
    (hname : request.deterministicTemporaryName = some request.target →
      start request.target ≠ none) (h : candidate ∈ request.candidates)
    (hfree : start candidate = none) : candidate ≠ request.target := by
  rintro rfl
  unfold TrustedRequest.candidates at h
  cases hgiven : request.deterministicTemporaryName with
  | some given =>
      rw [hgiven] at h
      obtain rfl := List.mem_singleton.mp h
      exact hname hgiven hfree
  | none =>
      rw [hgiven] at h
      obtain ⟨token, _, htoken⟩ := List.mem_map.mp h
      have hlength := congrArg String.length htoken
      simp only [String.length_append] at hlength
      have hdot : ".".length = 1 := by decide
      omega

theorem triple_create_temporary
    (hname : request.deterministicTemporaryName = some request.target →
      start request.target ≠ none) :
    Triple (closingAnswers request.target) (Untouched start) (createTemporary request)
      (fun name => Staged start request.target name Fresh) (Untouched start)
      (OldOrNew request start) := by
  have hcrash : ∀ state, Untouched start state → OldOrNew request start state :=
    fun state h => h.raised_well.1
  refine (triple_quiet .statTarget rfl hcrash).bind fun metadata => ?_
  refine (Program.triple_raise_if (fun _ h => h) hcrash).bind fun _ => ?_
  refine (Program.triple_raise_if (fun _ h => h.1) fun _ h => hcrash _ h.1).bind fun _ => ?_
  exact (triple_allocate request.candidates fun candidate => candidate_ne hname).mono
    (fun _ h => h.1.1) (fun _ _ h => h) (fun _ h => h) fun _ h => h

/-- The staged file with these bytes, behind any writes. -/
theorem triple_write_payload (mode : Nat) (payload bytes : List UInt8) :
    Triple (closingAnswers request.target)
      (Staged start request.target name fun node =>
        node.regular = true ∧ node.mode = mode ∧ node.bytes = bytes)
      (writePayload name payload)
      (fun _ => Staged start request.target name fun node =>
        node.regular = true ∧ node.mode = mode ∧ node.bytes = bytes ++ payload)
      (Staged start request.target name fun _ => True) (OldOrNew request start) := by
  -- by induction on what is still to be written
  induction hlength : payload.length using Nat.strong_induction_on generalizing payload bytes with
  | h length ih =>
      unfold writePayload
      by_cases hmore : payload = []
      · rw [dif_pos hmore, hmore, List.append_nil]
        exact Program.triple_pure (fun _ h => h) fun state h => h.old_or_new
      · rw [dif_neg hmore]
        have hwrite : Triple (closingAnswers request.target)
            (Staged start request.target name fun node =>
              node.regular = true ∧ node.mode = mode ∧ node.bytes = bytes)
            (call (.write name payload))
            (fun count => Staged start request.target name fun node =>
              node.regular = true ∧ node.mode = mode ∧ node.bytes = bytes ++ payload.take count)
            (Staged start request.target name fun _ => True) (OldOrNew request start) := by
          refine triple_closing_call _ ?_ ?_ staged_crash (fun _ => staged_crash) staged_crash
          · rintro state count after h ⟨_, hchanges⟩
            refine h.changes hchanges fun node hnode => ⟨hnode.1, hnode.2.1, ?_⟩
            rw [hnode.2.2]
          · rintro state error after h ⟨rfl | ⟨count, hchanges⟩, -⟩
            · exact h.mono fun _ _ => trivial
            · exact h.changes hchanges fun _ _ => trivial
        refine hwrite.bind fun count => ?_
        show Triple _ _ (dite _ _ _) _ _ _
        split
        · exact Program.triple_raise (fun _ h => h.mono fun _ _ => trivial)
            fun _ h => h.old_or_new
        · next hcount =>
            have hshorter : (payload.drop count).length < length := by
              have hpos := List.length_pos_iff.mpr hmore
              rw [List.length_drop]
              omega
            have hrest := ih _ hshorter (payload.drop count) (bytes ++ payload.take count) rfl
            rw [List.append_assoc, List.take_append_drop] at hrest
            exact hrest

/-- The temporary file gets the mode and the bytes of the request, and is flushed. -/
theorem triple_fill_temporary (hmode : 0 ≤ request.mode) :
    Triple (closingAnswers request.target) (Staged start request.target name Fresh)
      (fillTemporary request name)
      (fun _ => Staged start request.target name (Replaces request))
      (Staged start request.target name fun _ => True) (OldOrNew request start) := by
  have hchmod : Triple (closingAnswers request.target) (Staged start request.target name Fresh)
      (call (.fchmod name request.mode.toNat))
      (fun _ => Staged start request.target name fun node =>
        node.regular = true ∧ node.mode = request.mode.toNat ∧ node.bytes = [])
      (Staged start request.target name fun _ => True) (OldOrNew request start) := by
    refine triple_closing_call _ ?_ ?_ staged_crash (fun _ => staged_crash) staged_crash
    · intro state _ after h hchanges
      exact h.changes hchanges fun node hnode => ⟨hnode.1, rfl, hnode.2⟩
    · rintro state error after h ⟨hanswer, -⟩
      obtain rfl : after = state := hanswer
      exact h.mono fun _ _ => trivial
  refine hchmod.bind fun _ => ?_
  cases hencoded : request.encoded with
  | none =>
      exact Program.triple_raise (fun _ h => h.mono fun _ _ => trivial) fun _ h => h.old_or_new
  | some payload =>
      refine (triple_write_payload _ payload []).bind fun _ => ?_
      have hsync : Triple (closingAnswers request.target)
          (Staged start request.target name fun node =>
            node.regular = true ∧ node.mode = request.mode.toNat ∧ node.bytes = [] ++ payload)
          (call (.fsync name))
          (fun _ => Staged start request.target name (Replaces request))
          (Staged start request.target name fun _ => True) (OldOrNew request start) := by
        refine triple_closing_call _ ?_ ?_ staged_crash (fun _ => staged_crash) staged_crash
        · intro state _ after h hchanges
          refine h.changes hchanges fun node hnode => ⟨hnode.1, ?_, ?_, rfl⟩
          · rw [hencoded]
            exact congrArg some hnode.2.2.symm
          · show (node.mode : Int) = _
            rw [hnode.2.1]
            exact Int.toNat_of_nonneg hmode
        · rintro state error after h ⟨hanswer, -⟩
          obtain rfl : after = state := hanswer
          exact h.mono fun _ _ => trivial
      refine hsync.bind fun _ => ?_
      exact (triple_quiet (.close false) rfl staged_crash).mono (fun _ h => h) (fun _ _ h => h)
        (fun _ h => h.mono fun _ _ => trivial) fun _ h => h

/-- Without its temporary file a staged directory is as it was. -/
theorem update_staged {node : FileNode} (hfree : start name = none) :
    Function.update (Function.update start name (some node)) name none = start := by
  rw [Function.update_idem, ← hfree, Function.update_eq_self]

/-- The rename places the temporary file at the target, or leaves it staged. -/
theorem triple_replace_target :
    Triple (closingAnswers request.target) (Staged start request.target name (Replaces request))
      (replaceTarget name) (fun _ => Placed request start)
      (Staged start request.target name fun _ => True) (OldOrNew request start) := by
  have hany : ∀ state, Staged start request.target name (Replaces request) state →
      Staged start request.target name (fun _ => True) state :=
    fun state h => h.mono fun _ _ => trivial
  refine ((triple_quiet .verifyParent rfl staged_crash).mono (fun _ h => h) (fun _ _ h => h) hany
    fun _ h => h).bind fun _ => ?_
  refine triple_closing_call _ ?_ ?_ staged_crash (fun _ state h => h.raised_well.1) staged_crash
  · rintro state _ after ⟨hfailed, hfree, _, node, hnode, hfiles⟩ ⟨node', hnode', rfl⟩
    rw [hfiles, Function.update_self] at hnode'
    cases hnode'
    refine ⟨hfailed, node, hnode, ?_⟩
    show Function.update (Function.update state.files name none) request.target _ = _
    rw [hfiles, update_staged hfree]
  · rintro state error after h ⟨hanswer, -⟩
    obtain rfl : after = state := hanswer
    exact hany _ h

/-- The target is replaced, and the directory is flushed. -/
def Durable (request : TrustedRequest) (start : String → Option FileNode)
    (state : DirectoryState) : Prop :=
  Placed request start state ∧ state.synced = true

/-- The checks behind the rename leave the new target in place, and flushed where they pass. -/
theorem triple_confirm_target :
    Triple (closingAnswers request.target) (Placed request start) (confirmTarget request)
      (fun _ => Durable request start) (Placed request start) (OldOrNew request start) := by
  have hcrash : ∀ state, Placed request start state → OldOrNew request start state :=
    fun state h => h.raised_well.1
  have hdurable : ∀ state, Durable request start state → OldOrNew request start state :=
    fun state h => hcrash state h.1
  have hsync : Triple (closingAnswers request.target) (Placed request start) (call .fsyncDirectory)
      (fun _ => Durable request start) (Placed request start) (OldOrNew request start) := by
    refine triple_closing_call _ ?_ ?_ hcrash (fun _ => hdurable) hcrash
    · intro state _ after h hanswer
      obtain rfl : after = { state with synced := true } := hanswer
      exact ⟨h, rfl⟩
    · rintro state error after h ⟨hanswer, -⟩
      obtain rfl : after = state := hanswer
      exact h
  refine hsync.bind fun _ => ?_
  refine ((triple_quiet .statTarget rfl hdurable).mono (fun _ h => h) (fun _ _ h => h)
    (fun _ h => h.1) fun _ h => h).bind fun metadata => ?_
  refine (Program.triple_raise_if (fun _ h => h.1) hdurable).bind fun _ => ?_
  exact (triple_quiet .verifyParent rfl hdurable).mono (fun _ h => h.1) (fun _ _ h => h)
    (fun _ h => h.1) fun _ h => h

/-- The `finally` block without a temporary file. -/
theorem triple_close_parent {keeps crash : DirectoryState → Prop}
    (hcrash : ∀ state, keeps state → crash state) :
    Triple (closingAnswers target) keeps (cleanUp false none) (fun _ => keeps) keeps crash := by
  have hnothing : Triple (closingAnswers target) keeps (pure () : TrustedProgram Unit)
      (fun _ => keeps) keeps crash := Program.triple_pure (fun _ h => h) hcrash
  exact hnothing.bind fun _ => hnothing.bind fun _ => triple_quiet .closeParent rfl hcrash

/-- The removal of the temporary file leaves the directory as it may be where the function
raises. -/
theorem triple_unlink :
    Triple (closingAnswers request.target) (Staged start request.target name fun _ => True)
      (unlinkTemporary (some name)) (fun _ => RaisedWell request start) (RaisedWell request start)
      (OldOrNew request start) := by
  have hcrash : ∀ state, RaisedWell request start state → OldOrNew request start state :=
    fun state h => h.1
  have hunlink : Triple (closingAnswers request.target)
      (Staged start request.target name fun _ => True) (call (.unlink name))
      (fun _ => RaisedWell request start) (RaisedWell request start) (OldOrNew request start) := by
    refine triple_closing_call _ ?_ ?_ staged_crash (fun _ => hcrash) hcrash
    · rintro state (_ | _) after ⟨hfailed, hfree, _, node, _, hfiles⟩ hanswer
      · have hthere : state.files name = some node := by rw [hfiles, Function.update_self]
        exact absurd (hthere.symm.trans hanswer.1) (by simp)
      · obtain ⟨-, rfl⟩ := hanswer
        have hstart : Untouched start
            { state with files := Function.update state.files name none, synced := false } :=
          ⟨by rw [hfiles, update_staged hfree], hfailed⟩
        exact hstart.raised_well
    · rintro state error after h ⟨hanswer, -⟩
      obtain rfl : after = { state with unlinkFailed := true } := hanswer
      exact ⟨h.old_or_new, .inl rfl⟩
  exact hunlink.bind fun _ => Program.triple_pure (fun _ h => h) hcrash

/-- The `finally` block with a temporary file: while its descriptor is open, it closes. -/
theorem triple_clean_up (fileOpen : Bool) :
    Triple (closingAnswers request.target) (Staged start request.target name fun _ => True)
      (cleanUp fileOpen (some name)) (fun _ => RaisedWell request start) (RaisedWell request start)
      (OldOrNew request start) := by
  have hclose : Triple (closingAnswers request.target)
      (Staged start request.target name fun _ => True) (closeFile fileOpen)
      (fun _ => Staged start request.target name fun _ => True) (RaisedWell request start)
      (OldOrNew request start) := by
    cases fileOpen with
    | false => exact Program.triple_pure (fun _ h => h) staged_crash
    | true =>
        exact triple_closing_call _ (fun _ _ _ h hanswer => quiet_answer rfl hanswer ▸ h)
          (fun _ _ _ _ hanswer => absurd hanswer.2 id) staged_crash (fun _ => staged_crash)
          fun _ h => h.1
  refine hclose.bind fun _ => triple_unlink.bind fun _ => ?_
  exact triple_quiet .closeParent rfl fun _ h => h.1

/-- The whole function, from any directory: durable where it returns, old or new at every point. -/
theorem triple_atomic_write
    (hname : request.deterministicTemporaryName = some request.target →
      start request.target ≠ none) :
    Triple (closingAnswers request.target) (Untouched start) (atomicWriteTextTrusted request)
      (fun _ => Durable request start) (RaisedWell request start) (OldOrNew request start) := by
  have huntouched : ∀ state, Untouched start state → OldOrNew request start state :=
    fun state h => h.raised_well.1
  have hplaced : ∀ state, Placed request start state → OldOrNew request start state :=
    fun state h => h.raised_well.1
  have hraised : ∀ state, RaisedWell request start state → OldOrNew request start state :=
    fun state h => h.1
  refine (Program.triple_raise_if (fun _ h => h.raised_well) huntouched).bind fun _ => ?_
  by_cases hmode : request.mode < 0 ∨ 0o777 < request.mode
  · exact fun state h => absurd hmode h.2
  · have hopen : Triple (closingAnswers request.target)
        (fun state => Untouched start state ∧ ¬ (request.mode < 0 ∨ 0o777 < request.mode))
        (call .openParent) (fun _ => Untouched start) (RaisedWell request start)
        (OldOrNew request start) :=
      (triple_quiet .openParent rfl huntouched).mono (fun _ h => h.1) (fun _ _ h => h)
        (fun _ h => h.raised_well) fun _ h => h
    refine hopen.bind fun _ => ?_
    refine ((triple_create_temporary hname).on_error
      ((triple_close_parent huntouched).mono (fun _ h => h) (fun _ _ h => h.raised_well)
        (fun _ h => h.raised_well) fun _ h => h) (fun _ h => h) hraised).bind fun name => ?_
    refine ((triple_fill_temporary (by omega)).on_error (triple_clean_up true) (fun _ h => h)
      hraised).bind fun _ => ?_
    refine (triple_replace_target.on_error (triple_clean_up false) (fun _ h => h) hraised).bind
      fun _ => ?_
    refine (triple_confirm_target.on_error
      ((triple_close_parent hplaced).mono (fun _ h => h) (fun _ _ h => h.raised_well)
        (fun _ h => h.raised_well) fun _ h => h) (fun _ h => h) hraised).bind fun _ => ?_
    exact (triple_close_parent fun state h => hplaced state h.1).mono (fun _ h => h)
      (fun _ _ h => h) (fun _ h => h.1.raised_well) fun _ h => h

end Phases

/-! ## Every run -/

/-- The directory before the call, with no descriptor open. -/
def DirectoryState.before (files : String → Option FileNode) : DirectoryState where
  files := files

/-- How a run ends, at whatever call it is cut off: the target is the old file or the new one; a
run that returns has replaced it, durably; and a run that raises leaves no other file behind,
unless the removal of its temporary file failed. -/
def RunEnds (request : TrustedRequest) (files : String → Option FileNode) :
    Outcome TrustedError Unit → DirectoryState → Prop
  | .interrupted, state => OldOrNew request files state
  | .raised _, state => RaisedWell request files state
  | .returned _, state => Durable request files state

/-- Every run in which the temporary file's descriptor closes in the `finally` block, and whose
temporary name, if it is given, is not that of an absent target. -/
theorem trusted_replacement {request : TrustedRequest} {files : String → Option FileNode}
    {outcome : Outcome TrustedError Unit} {state : DirectoryState}
    (hname : request.deterministicTemporaryName = some request.target →
      files request.target ≠ none)
    (hruns : Program.Runs (closingAnswers request.target) (atomicWriteTextTrusted request)
      (.before files) outcome state) : RunEnds request files outcome state := by
  have h := ((triple_atomic_write hname) (.before files) ⟨rfl, rfl⟩).runs hruns
  cases outcome with
  | interrupted => exact h
  | raised error => exact h
  | returned value => exact h

/-- What fails in a directory that otherwise does what it is told: the `fsync` of the temporary
file, or every `close` of its descriptor. -/
inductive Fault where
  | fsync | close
  deriving DecidableEq

/-- A directory that does what it is told, but for one fault. -/
def serve (fault : Option Fault) (target : String) (state : DirectoryState) :
    (op : TrustedOp) → op.Reply × DirectoryState
  | .openParent | .verifyParent | .closeParent => (.ok (), state)
  | .close _ =>
      (if fault = some .close then .error (.os "Input/output error") else .ok (), state)
  | .statTarget => (.ok ((state.files target).map FileNode.status), state)
  | .create name =>
      if state.files name = none then
        (.ok true, state.put name ⟨true, 1, 0, 0o600, [], false⟩)
      else (.ok false, state)
  | .fchmod name mode =>
      match state.files name with
      | some node => (.ok (), state.put name { node with mode := mode, synced := false })
      | none => (.error (.os "Bad file descriptor"), state)
  | .write name payload =>
      match state.files name with
      | some node =>
          (.ok payload.length, state.put name
            { node with bytes := node.bytes ++ payload.take payload.length, synced := false })
      | none => (.error (.os "Bad file descriptor"), state)
  | .fsync name =>
      if fault = some .fsync then (.error (.os "Input/output error"), state)
      else
        match state.files name with
        | some node => (.ok (), state.put name { node with synced := true })
        | none => (.error (.os "Bad file descriptor"), state)
  | .replace name =>
      match state.files name with
      | some node =>
          (.ok (), { state with
            files := Function.update (Function.update state.files name none) target (some node)
            synced := false })
      | none => (.error (.os "No such file or directory"), state)
  | .fsyncDirectory => (.ok (), { state with synced := true })
  | .unlink name =>
      if state.files name = none then (.ok false, state)
      else (.ok true, { state with
        files := Function.update state.files name none
        synced := false })

/-- A directory with a fault answers as the calls may. -/
theorem serve_answers (fault : Option Fault) (target : String) (state : DirectoryState)
    (op : TrustedOp) :
    answers target state op (serve fault target state op).1 (serve fault target state op).2 := by
  cases op with
  | openParent | verifyParent | closeParent | fsyncDirectory => rfl
  | close inFinally =>
      rw [serve]
      split
      · rfl
      · rfl
  | statTarget => exact ⟨rfl, rfl⟩
  | create name =>
      rw [serve]
      split
      · next hfree => exact ⟨hfree, 0, rfl⟩
      · next hthere => exact ⟨hthere, rfl⟩
  | fchmod name mode =>
      rw [serve]
      split
      · next node hnode => exact ⟨node, hnode, rfl⟩
      · rfl
  | fsync name =>
      rw [serve]
      split
      · rfl
      · split
        · next node hnode => exact ⟨node, hnode, rfl⟩
        · rfl
  | write name payload =>
      rw [serve]
      split
      · next node hnode => exact ⟨Nat.le_refl _, node, hnode, rfl⟩
      · exact .inl rfl
  | replace name =>
      rw [serve]
      split
      · next node hnode => exact ⟨node, hnode, rfl⟩
      · rfl
  | unlink name =>
      rw [serve]
      split
      · next hfree => exact ⟨hfree, rfl⟩
      · next hthere => exact ⟨hthere, rfl⟩

/-- A run in such a directory whose descriptors close is a run under closing answers. -/
theorem serve_runs {fault : Option Fault} (hcloses : fault ≠ some .close) (request : TrustedRequest)
    (files : String → Option FileNode) :
    Program.Runs (closingAnswers request.target) (atomicWriteTextTrusted request) (.before files)
      (Program.outcomeOf (Program.run (serve fault request.target) (atomicWriteTextTrusted request)
        (.before files)).1)
      (Program.run (serve fault request.target) (atomicWriteTextTrusted request)
        (.before files)).2 := by
  refine (Program.runs_run (serve fault request.target) (atomicWriteTextTrusted request)
    (.before files)).mono ?_
  rintro state op reply following hserved
  have hanswers := serve_answers fault request.target state op
  rw [show serve fault request.target state op = (reply, following) from hserved] at hanswers
  refine ⟨hanswers, ?_⟩
  cases op with
  | close inFinally =>
      have hreply : (if fault = some .close then Except.error (.os "Input/output error")
          else .ok ()) = reply := congrArg Prod.fst hserved
      rw [if_neg hcloses] at hreply
      obtain rfl := hreply
      cases inFinally <;> trivial
  | _ => trivial

/-- The replacement of a state file, under a fixed temporary name. -/
def sampleRequest : TrustedRequest where
  target := "state.json"
  encoded := some [123, 125, 10]
  mode := 0o600
  requiredOwnerUid := 0
  deterministicTemporaryName := some ".state.json.tmp"

/-- A directory that holds the old state file and nothing else. -/
def sampleFiles (name : String) : Option FileNode :=
  if name = "state.json" then some ⟨true, 1, 0, 0o600, [91, 93, 10], true⟩ else none

/-- The run that replaces the file, and the run in which `fsync` fails: it raises, the old file
stays and the temporary file is removed. -/
theorem trusted_replacement_sample :
    ((Program.run (serve none "state.json") (atomicWriteTextTrusted sampleRequest)
        (.before sampleFiles)).1.isOk = true ∧
      RunEnds sampleRequest sampleFiles
        (Program.outcomeOf (Program.run (serve none "state.json")
          (atomicWriteTextTrusted sampleRequest) (.before sampleFiles)).1)
        (Program.run (serve none "state.json") (atomicWriteTextTrusted sampleRequest)
          (.before sampleFiles)).2) ∧
    (Program.run (serve (some .fsync) "state.json") (atomicWriteTextTrusted sampleRequest)
        (.before sampleFiles)).1.isOk = false ∧
      RunEnds sampleRequest sampleFiles
        (Program.outcomeOf (Program.run (serve (some .fsync) "state.json")
          (atomicWriteTextTrusted sampleRequest) (.before sampleFiles)).1)
        (Program.run (serve (some .fsync) "state.json") (atomicWriteTextTrusted sampleRequest)
          (.before sampleFiles)).2 ∧
      (Program.run (serve (some .fsync) "state.json") (atomicWriteTextTrusted sampleRequest)
        (.before sampleFiles)).2.files "state.json" = sampleFiles "state.json" ∧
      (Program.run (serve (some .fsync) "state.json") (atomicWriteTextTrusted sampleRequest)
        (.before sampleFiles)).2.files ".state.json.tmp" = none :=
  have hname : sampleRequest.deterministicTemporaryName ≠ some sampleRequest.target := by decide
  ⟨⟨by decide +kernel,
      trusted_replacement (fun h => absurd h hname) (serve_runs (by decide) sampleRequest _)⟩,
    by decide +kernel,
    trusted_replacement (fun h => absurd h hname) (serve_runs (by decide) sampleRequest _),
    by decide +kernel, by decide +kernel⟩

/-- Where the descriptor fails to close, it fails again in the `finally` block, which then never
tries to remove the temporary file: the call raises and the file stays. -/
theorem temporary_file_remains :
    ∃ error state,
      Program.Runs (answers "state.json") (atomicWriteTextTrusted sampleRequest)
        (.before fun _ => none) (.raised error) state ∧
      state.unlinkFailed = false ∧ state.files ".state.json.tmp" ≠ none := by
  have hruns := (Program.runs_run (serve (some .close) "state.json")
    (atomicWriteTextTrusted sampleRequest)
    (.before fun _ => none)).mono (fun state op reply following hserved => by
      have hanswers := serve_answers (some .close) "state.json" state op
      rw [show serve (some .close) "state.json" state op =
        (reply, following) from hserved] at hanswers
      exact hanswers)
  have hstate : (Program.run (serve (some .close) "state.json")
      (atomicWriteTextTrusted sampleRequest)
      (.before fun _ => none)).2.unlinkFailed = false ∧
      ((Program.run (serve (some .close) "state.json") (atomicWriteTextTrusted sampleRequest)
        (.before fun _ => none)).2.files ".state.json.tmp").isSome = true ∧
      (Program.run (serve (some .close) "state.json") (atomicWriteTextTrusted sampleRequest)
        (.before fun _ => none)).1.isOk = false := by decide +kernel
  revert hruns hstate
  cases (Program.run (serve (some .close) "state.json") (atomicWriteTextTrusted sampleRequest)
    (.before fun _ => none)) with
  | mk result state =>
      rintro hruns ⟨hfailed, hfile, hraised⟩
      cases result with
      | ok value => cases hraised
      | error error =>
          exact ⟨error, state, hruns, hfailed, fun hnone => by simp [hnone] at hfile⟩

end NvidiaConverge.TrustedWrite
