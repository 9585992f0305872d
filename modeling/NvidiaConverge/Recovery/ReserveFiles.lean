import NvidiaConverge.Recovery.Reserve

/-!
# One file of the reservation

The calls of `reserveAppliedReport` on one of its files, between its exclusive create and its last
call: a file that is created and filled is there with its whole text, and one that fails is removed
again. `triple_create_file` is the main result; `triple_private_file` and `triple_emergency_reserve`
are it for the two kinds of files.
-/

namespace NvidiaConverge.Reserve

open Program (Ensures Outcome Triple ending onError)

variable {request : ReservationRequest} {start : ReportDisk} {file : ReservedFile}
  {before state after : Reservation} {op : ReserveOp}

/-! ## Calls -/

/-- A call that leaves the reservation as it is. -/
def ReserveOp.quiet : ReserveOp → Bool
  | .create _ | .write .. | .allocate _ | .truncateReserve | .writeRandom _ | .sync _ | .unlink _
  | .syncReports | .syncActive => false
  | _ => true

theorem quiet_answer (hquiet : op.quiet = true) {reply : op.Reply}
    (h : Reserving request before op reply after) : after = before := by
  cases op <;> first
    | exact Bool.noConfusion hquiet
    | (cases reply with
      | error error => exact h
      | ok value => exact h.2)

theorem triple_quiet {pre : Reservation → Prop} (hquiet : op.quiet = true) :
    Triple (Dependable request) pre (call op) (fun _ => pre) pre pre :=
  Program.triple_call op
    (fun _ _ _ hpre hanswer => (quiet_answer hquiet hanswer.1).symm ▸ hpre)
    (fun _ _ _ hpre hanswer => (quiet_answer hquiet hanswer.1).symm ▸ hpre)
    (fun _ hpre => hpre) (fun _ _ hpre => hpre) fun _ hpre => hpre

/-- A quiet call behind which a file would stay does not fail. -/
theorem triple_dependable {pre : Reservation → Prop} (hquiet : op.quiet = true)
    (hleaves : op.leaves = some file) (hthere : ∀ state, pre state → state.files file ≠ none) :
    Triple (Dependable request) pre (call op) (fun _ => pre) (fun _ => False) pre := by
  refine Program.triple_call op
    (fun _ _ _ hpre hanswer => (quiet_answer hquiet hanswer.1).symm ▸ hpre) ?_
    (fun _ hpre => hpre) (fun _ _ hpre => hpre) fun _ hfalse => hfalse.elim
  intro state error after hpre hanswer
  exact Bool.noConfusion (hanswer.2 file hleaves (hthere state hpre))

/-- A part whose errors are ignored returns what it would return, or the state that it failed in. -/
theorem triple_ignoring {pre fail crash : Reservation → Prop} {post : Unit → Reservation → Prop}
    {program : ReserveProgram Unit}
    (h : Triple (Dependable request) pre program post fail crash)
    (hfail : ∀ state, fail state → crash state) :
    Triple (Dependable request) pre (ignoring program)
      (fun _ state => post () state ∨ fail state) (fun _ => False) crash := by
  intro state hpre
  refine (h state hpre).handle (fun _ hcrash => hcrash) ?_ fun _ _ hpost => .inl hpost
  exact fun _ final hends => Program.ensures_pure.mpr ⟨hfail final hends, .inr hends⟩

/-! ## One file -/

/-- Only this file was touched: the directory, the other files and their reserve are as before. -/
structure Framed (file : ReservedFile) (before after : Reservation) : Prop where
  disk : after.disk = before.disk
  others : ∀ other, other ≠ file → after.files other = before.files other
  reserved : file ≠ .reserve → after.reserved = before.reserved

theorem Framed.refl (file : ReservedFile) (before : Reservation) : Framed file before before :=
  ⟨rfl, fun _ _ => rfl, fun _ => rfl⟩

theorem files_put {content : Option ActiveFile} (other : ReservedFile) :
    (state.put file content).files other = if other = file then content else state.files other := by
  simp [Reservation.put, Function.update_apply]

theorem Framed.put (h : Framed file before state) (content : Option ActiveFile) :
    Framed file before (state.put file content) where
  disk := h.disk
  others other hother := by
    rw [files_put, if_neg hother]
    exact h.others other hother
  reserved := h.reserved

/-- The file that was created behind `before` has this content. -/
structure Holding (request : ReservationRequest) (file : ReservedFile)
    (content : ActiveFile → Prop) (before after : Reservation) : Prop where
  frame : Framed file before after
  fresh : Fresh before.disk request file
  content : ∃ part, after.files file = some part ∧ content part

/-- The file wherever writing it may be cut off: it holds a beginning of its text. -/
def Partial (request : ReservationRequest)
    (file : ReservedFile) : Reservation → Reservation → Prop :=
  Holding request file fun part => part.text <+: request.text file

/-- A file that is written, and flushed or not; the reserve has its size. -/
def Filled (request : ReservationRequest) (file : ReservedFile) (written : Bool)
    (before after : Reservation) : Prop :=
  Holding request file (· = { text := request.text file, written }) before after ∧
    (file = .reserve → after.reserved = emergencyReserveBytes)

/-- The file is not there, and nothing else was touched. -/
def Missing (file : ReservedFile) (before after : Reservation) : Prop :=
  Framed file before after ∧ after.files file = none

/-- The file is not there, or it holds a beginning of its text. -/
def Begun (request : ReservationRequest) (file : ReservedFile)
    (before after : Reservation) : Prop :=
  Missing file before after ∨ Partial request file before after

theorem Holding.there {content : ActiveFile → Prop}
    (h : Holding request file content before after) :
    after.files file ≠ none := by
  obtain ⟨part, hpart, -⟩ := h.content
  simp [hpart]

/-- A file that is filled holds a beginning of its text, namely all of it. -/
theorem Filled.incomplete {written : Bool} (h : Filled request file written before after) :
    Partial request file before after := by
  obtain ⟨part, hpart, rfl⟩ := h.1.content
  exact ⟨h.1.frame, h.1.fresh, _, hpart, List.prefix_refl _⟩

/-- A change that keeps to another content leaves the file with that content. -/
theorem Holding.update {content content' : ActiveFile → Prop}
    (h : Holding request file content before state) {f : ActiveFile → ActiveFile}
    (hf : ∀ part, content part → content' (f part)) :
    Holding request file content' before (state.update file f) := by
  obtain ⟨part, hpart, hcontent⟩ := h.content
  refine ⟨h.frame.put _, h.fresh, f part, ?_, hf part hcontent⟩
  rw [Reservation.update, files_put, if_pos rfl, hpart]
  rfl

/-- Removing the file on a dependable host succeeds and leaves it missing. -/
theorem triple_unlink :
    Triple (Dependable request) (Partial request file before) (call (.unlink file))
      (fun _ => Missing file before) (fun _ => False) (Begun request file before) := by
  refine Program.triple_call (ReserveOp.unlink file) ?_ ?_ (fun _ hpartial => .inr hpartial)
    (fun _ _ hmissing => .inl hmissing) fun _ hfalse => hfalse.elim
  · rintro state value after hpartial ⟨⟨-, rfl⟩, -⟩
    have hput : Framed file before (state.put file none) := hpartial.frame.put none
    refine ⟨⟨hput.disk, hput.others, hput.reserved⟩, ?_⟩
    show (state.put file none).files file = none
    rw [files_put, if_pos rfl]
  · intro state error after hpartial hanswer
    exact Bool.noConfusion (hanswer.2 file rfl hpartial.there)

theorem triple_sync :
    Triple (Dependable request) (Filled request file false before) (call (.sync file))
      (fun _ => Filled request file true before) (Partial request file before)
      (Partial request file before) := by
  refine Program.triple_call (ReserveOp.sync file) ?_ ?_ (fun _ h => h.incomplete)
    (fun _ _ h => h.incomplete) fun _ h => h
  · rintro state value after hfilled ⟨⟨-, rfl⟩, -⟩
    exact ⟨hfilled.1.update fun part hpart => by rw [hpart], hfilled.2⟩
  · rintro state error after hfilled ⟨hfails, -⟩
    cases hfails
    exact hfilled.incomplete

/-- A file is filled and flushed where every call from its status to the last one succeeds, and
otherwise holds a beginning of its text. -/
theorem triple_fill_file {pre : Reservation → Prop} {fill : ReserveProgram Unit}
    (hpre : ∀ state, pre state → Partial request file before state)
    (hfill : Triple (Dependable request) pre fill (fun _ => Filled request file false before)
      (Partial request file before) (Partial request file before)) :
    Triple (Dependable request) pre (fillFile file fill) (fun _ => Filled request file true before)
      (Partial request file before) (Partial request file before) := by
  have hquiet : ∀ op, op.quiet = true → ∀ written, Triple (Dependable request)
      (Filled request file written before) (call op) (fun _ => Filled request file written before)
      (Partial request file before) (Partial request file before) := fun op hop written =>
    (triple_quiet hop).mono (fun _ h => h) (fun _ _ h => h) (fun _ h => h.incomplete)
      fun _ h => h.incomplete
  refine Triple.bind ((triple_quiet rfl).mono (fun _ h => h) (fun _ _ h => h) hpre hpre) fun _ => ?_
  refine hfill.bind fun _ => triple_sync.bind fun _ => ?_
  exact (hquiet (.bind file) rfl true).bind fun _ => hquiet (.stat file) rfl true

/-- A file between its exclusive create and its last call. -/
theorem triple_create_file {fill : ReserveProgram Unit} (habsent : before.files file = none)
    (hfill : Triple (Dependable request)
      (fun state => Holding request file (· = {}) before state ∧ state.reserved = before.reserved)
      fill (fun _ => Filled request file false before) (Partial request file before)
      (Partial request file before)) :
    Triple (Dependable request) (· = before) (createFile file fill)
      (fun _ => Filled request file true before) (Missing file before)
      (Begun request file before) := by
  have hempty : ∀ state, Holding request file (· = {}) before state ∧
      state.reserved = before.reserved → Partial request file before state := by
    rintro state ⟨hholding, -⟩
    obtain ⟨part, hpart, rfl⟩ := hholding.content
    exact ⟨hholding.frame, hholding.fresh, _, hpart, List.nil_prefix⟩
  have hmissing : Missing file before before := ⟨Framed.refl file before, habsent⟩
  have hcreate : Triple (Dependable request) (· = before) (call (.create file))
      (fun _ state => Holding request file (· = {}) before state ∧
        state.reserved = before.reserved) (Missing file before) (Begun request file before) := by
    refine Program.triple_call (ReserveOp.create file) ?_ ?_ ?_
      (fun _ state h => .inr (hempty state h)) fun _ h => .inl h
    · rintro state value after rfl ⟨⟨hmay, rfl⟩, -⟩
      refine ⟨⟨(Framed.refl file _).put _, hmay.2, {}, ?_, rfl⟩, rfl⟩
      show (Reservation.put _ file (some {})).files file = some {}
      rw [files_put, if_pos rfl]
    · rintro state error after rfl ⟨hfails, -⟩
      cases hfails
      exact hmissing
    · rintro state rfl
      exact .inl hmissing
  have hinspect : Triple (Dependable request)
      (fun state => Holding request file (· = {}) before state ∧ state.reserved = before.reserved)
      (onError (call (.inspect file)) (call (.close file)))
      (fun _ state => Holding request file (· = {}) before state ∧ state.reserved = before.reserved)
      (Missing file before) (Begun request file before) :=
    (triple_dependable rfl rfl fun state h => (hempty state h).there).on_error
      (fun _ => False.elim) (fun state h => .inr (hempty state h)) fun _ => .inl
  have hfile := triple_fill_file hempty hfill
  -- A file that cannot be filled is unlinked before its descriptor is closed.
  have hunlink : Triple (Dependable request) (Partial request file before)
      (ignoring (call (.unlink file))) (fun _ => Missing file before) (Missing file before)
      (Begun request file before) :=
    (triple_ignoring triple_unlink fun _ => False.elim).mono (fun _ h => h)
      (fun _ _ h => h.resolve_right id) (fun _ => False.elim) fun _ h => h
  have hcleanup : Triple (Dependable request) (Partial request file before)
      (do ignoring (call (.unlink file)); call (.close file))
      (fun _ => Missing file before) (Missing file before) (Begun request file before) := by
    refine hunlink.bind fun _ => ?_
    exact (triple_quiet rfl).mono (fun _ h => h) (fun _ _ h => h) (fun _ h => h) fun _ => .inl
  have hclose : Triple (Dependable request) (Filled request file true before) (call (.close file))
      (fun _ => Filled request file true before) (fun _ => False)
        (Filled request file true before) :=
    triple_dependable rfl rfl fun _ h => h.incomplete.there
  refine hcreate.bind fun _ => ?_
  refine hinspect.bind fun _ => ?_
  refine Triple.bind (hfile.on_error hcleanup (fun _ => .inr) fun _ => .inl) fun _ => ?_
  exact hclose.mono (fun _ h => h) (fun _ _ h => h) (fun _ => False.elim)
    fun _ h => .inr h.incomplete

/-! ## What is written -/

theorem Holding.extend {text : List Char} {bytes : List Char}
    (h : Holding request file (· = { text }) before state) :
    Holding request file (· = { text := text ++ bytes }) before (state.extend file bytes) :=
  Holding.update h fun part hpart => by rw [hpart]

theorem partial_of_text {text rest : List Char} (htext : text ++ rest = request.text file)
    (h : Holding request file (· = { text }) before state) : Partial request file before state := by
  obtain ⟨part, hpart, rfl⟩ := h.content
  exact ⟨h.frame, h.fresh, _, hpart, rest, htext⟩

/-- Writing the rest of its text behind what a file holds fills the file. -/
theorem triple_write_all (hfile : file ≠ .reserve) {text payload : List Char}
    (htext : text ++ payload = request.text file) :
    Triple (Dependable request) (Holding request file (· = { text }) before)
      (writeAll file payload) (fun _ => Filled request file false before)
      (Partial request file before) (Partial request file before) := by
  -- By the length of what is left to write: a write that succeeds is not empty.
  induction hlength : payload.length using Nat.strong_induction_on generalizing text payload with
  | _ length ih =>
      rw [writeAll]
      split
      · next hempty =>
          rw [hempty, List.append_nil] at htext
          refine Program.triple_pure (fun state h => ⟨?_, fun h => absurd h hfile⟩) fun state h =>
            partial_of_text (by rw [List.append_nil, htext]) h
          rw [← htext]
          exact h
      · next hmore =>
          have hcut : ∀ count, text ++ payload.take count ++ payload.drop count =
              request.text file := fun count => by
            rw [List.append_assoc, List.take_append_drop, htext]
          have hwrite : Triple (Dependable request) (Holding request file (· = { text }) before)
              (call (.write file payload))
              (fun written => Holding request file (· = { text := text ++ payload.take written })
                before) (Partial request file before) (Partial request file before) := by
            refine Program.triple_call (ReserveOp.write file payload) ?_ ?_
              (fun _ => partial_of_text htext) (fun written _ => partial_of_text (hcut written))
              fun _ h => h
            · rintro state written after hholding ⟨⟨-, rfl⟩, -⟩
              exact hholding.extend
            · rintro state error after hholding ⟨⟨count, rfl⟩, -⟩
              exact partial_of_text (hcut count) hholding.extend
          refine hwrite.bind fun written => ?_
          split
          · exact Program.triple_raise (fun _ => partial_of_text (hcut written))
              fun _ => partial_of_text (hcut written)
          · next hwritten =>
              refine ih _ ?_ (hcut written) rfl
              have hpositive := List.length_pos_iff.mpr hmore
              rw [List.length_drop]
              omega

/-- The reserve while it is filled: it holds no text, and so many bytes are reserved. -/
def Growing (request : ReservationRequest) (before : Reservation) (size : Nat)
    (state : Reservation) : Prop :=
  Holding request .reserve (· = {}) before state ∧ state.reserved = size

theorem Growing.incomplete {size : Nat} (h : Growing request before size state) :
    Partial request .reserve before state :=
  partial_of_text (List.append_nil _) h.1

theorem Growing.resize {size : Nat} (h : Growing request before size state) (reserved : Nat) :
    Growing request before reserved { state with reserved } :=
  ⟨⟨⟨h.1.frame.disk, h.1.frame.others, fun hne => absurd rfl hne⟩, h.1.fresh, h.1.content⟩, rfl⟩

/-- A write of random bytes adds to what is reserved, or leaves the reserve in part. -/
theorem triple_write_random (size count : Nat) :
    Triple (Dependable request) (Growing request before size) (call (.writeRandom count))
      (fun _ => Growing request before (size + count)) (Partial request .reserve before)
      (Partial request .reserve before) := by
  refine Program.triple_call (ReserveOp.writeRandom count) ?_ ?_ (fun _ h => h.incomplete)
    (fun _ _ h => h.incomplete) fun _ h => h
  · rintro state value after hgrowing ⟨⟨-, rfl⟩, -⟩
    rw [← hgrowing.2]
    exact hgrowing.resize _
  · rintro state error after hgrowing ⟨⟨reserved, rfl⟩, -⟩
    exact (hgrowing.resize reserved).incomplete

theorem triple_fill_reserve (size remaining : Nat)
    (hsize : size + remaining = emergencyReserveBytes) :
    Triple (Dependable request) (Growing request before size) (fillReserve remaining)
      (fun _ => Filled request .reserve false before) (Partial request .reserve before)
      (Partial request .reserve before) := by
  -- By what remains: a chunk is never empty.
  induction remaining using Nat.strong_induction_on generalizing size with
  | _ remaining ih =>
      rw [fillReserve]
      split
      · next hnone =>
          refine Program.triple_pure (fun state h => ⟨h.1, fun _ => ?_⟩) fun state h => h.incomplete
          rw [h.2]
          omega
      · next hsome =>
          exact (triple_write_random size _).bind fun _ => ih _ (by omega) _ (by omega)

/-- The reserve has its size however it is allocated. -/
theorem triple_allocate (hbefore : before.reserved = 0) :
    Triple (Dependable request) (Growing request before before.reserved)
      (allocateEmergencyBytes emergencyReserveBytes) (fun _ => Filled request .reserve false before)
      (Partial request .reserve before) (Partial request .reserve before) := by
  have hallocate : Triple (Dependable request) (Growing request before before.reserved)
      (call (.allocate emergencyReserveBytes))
      (fun allocation => Growing request before
        (if allocation = Allocation.allocated then emergencyReserveBytes else 0))
      (Partial request .reserve before) (Partial request .reserve before) := by
    refine Program.triple_call (ReserveOp.allocate emergencyReserveBytes) ?_ ?_
      (fun _ h => h.incomplete) (fun _ _ h => h.incomplete) fun _ h => h
    · rintro state allocation after hgrowing ⟨⟨-, rfl⟩, -⟩
      show Growing request before _ (if _ then _ else _)
      split
      · exact hgrowing.resize _
      · rw [← hbefore]
        exact hgrowing
    · rintro state error after hgrowing ⟨⟨reserved, rfl⟩, -⟩
      exact (hgrowing.resize reserved).incomplete
  have hquiet : ∀ op, op.quiet = true → Triple (Dependable request) (Growing request before 0)
      (call op) (fun _ => Growing request before 0) (Partial request .reserve before)
      (Partial request .reserve before) := fun op hop =>
    (triple_quiet hop).mono (fun _ h => h) (fun _ _ h => h) (fun _ h => h.incomplete)
      fun _ h => h.incomplete
  have htruncate : Triple (Dependable request) (Growing request before 0) (call .truncateReserve)
      (fun _ => Growing request before 0) (Partial request .reserve before)
      (Partial request .reserve before) := by
    refine Program.triple_call ReserveOp.truncateReserve ?_ ?_ (fun _ h => h.incomplete)
      (fun _ _ h => h.incomplete) fun _ h => h
    · rintro state value after hgrowing ⟨⟨-, rfl⟩, -⟩
      exact hgrowing.resize 0
    · rintro state error after hgrowing ⟨hfails, -⟩
      cases hfails
      exact hgrowing.incomplete
  have hfill : Triple (Dependable request) (Growing request before 0)
      (fillReserve emergencyReserveBytes) (fun _ => Filled request .reserve false before)
      (Partial request .reserve before) (Partial request .reserve before) :=
    triple_fill_reserve 0 emergencyReserveBytes (Nat.zero_add _)
  unfold allocateEmergencyBytes
  refine Triple.bind ((Program.triple_raise_if (fun _ h => h.incomplete) fun _ h =>
    h.incomplete).mono
    (fun _ h => h) (fun _ _ h => h.1) (fun _ h => h) fun _ h => h) fun _ => ?_
  refine hallocate.bind fun allocation => ?_
  -- Without `posix_fallocate`, or where the file system refuses it, the reserve is written out.
  cases allocation with
  | allocated =>
      exact Program.triple_pure (fun state h => ⟨h.1, fun _ => h.2⟩) fun state h => h.incomplete
  | unsupported => exact htruncate.bind fun _ => (hquiet .rewindReserve rfl).bind fun _ => hfill
  | missing => exact (hquiet .rewindReserve rfl).bind fun _ => hfill

/-! ## The four files -/

/-- Creating a private file fills it; where that fails the file is removed again. -/
theorem triple_private_file (hfile : file ≠ .reserve) (habsent : before.files file = none) :
    Triple (Dependable request) (· = before) (createPrivateFile file (request.text file))
      (fun _ => Filled request file true before) (Missing file before)
      (Begun request file before) :=
  triple_create_file habsent
    ((triple_write_all hfile (List.nil_append _)).mono (fun _ h => h.1) (fun _ _ h => h)
      (fun _ h => h) fun _ h => h)

/-- Creating the reserve fills it; where that fails the reserve is removed again. -/
theorem triple_emergency_reserve (hbefore : before.reserved = 0)
    (habsent : before.files .reserve = none) :
    Triple (Dependable request) (· = before) createEmergencyReserve
      (fun _ => Filled request .reserve true before) (Missing .reserve before)
      (Begun request .reserve before) :=
  triple_create_file habsent (triple_allocate hbefore)

end NvidiaConverge.Reserve
