import NvidiaConverge.Library.Embed

/-!
# Routines

A routine is a program with a memory that its caller goes on with, whether it returns or throws.
`Routine.Triple` is the triple of a routine, with its rules. `implement` runs a program whose
operations are calls of routines; what every routine keeps, the implemented program keeps, wherever
it is cut off (`ensures_implement`).
-/

/-- A program with a memory, which an error keeps. -/
def Routine (ω : Type) (ρ : ω → Type) (μ ε α : Type) : Type :=
  μ → Program ω ρ Empty (Except ε α × μ)

namespace Routine

open Program (Ensures Outcome ending)

variable {ω : Type} {ρ : ω → Type} {μ ε α β σ : Type}

/-- What a routine goes on with behind another. -/
def next (rest : α → Routine ω ρ μ ε β) : Except ε α × μ → Program ω ρ Empty (Except ε β × μ)
  | (.ok value, memory) => rest value memory
  | (.error error, memory) => pure (.error error, memory)

instance : Monad (Routine ω ρ μ ε) where
  pure value := fun memory => pure (.ok value, memory)
  bind routine rest := fun memory => routine memory >>= next rest

/-- The routine that issues one operation, returns its reply and leaves the memory as it is. -/
def perform (op : ω) : Routine ω ρ μ ε (ρ op) :=
  fun memory => Program.perform op >>= fun reply => pure (.ok reply, memory)

/-- The routine that throws an error and leaves the memory as it is. -/
def throw (error : ε) : Routine ω ρ μ ε α :=
  fun memory => pure (.error error, memory)

/-- The routine that throws the error when the condition holds, and returns otherwise. -/
def throwIf (condition : Prop) [Decidable condition] (error : ε) : Routine ω ρ μ ε Unit :=
  if condition then throw error else pure ()

/-- Return a value or throw an error that is already there. -/
def ofExcept : Except ε α → Routine ω ρ μ ε α
  | .ok value => pure value
  | .error error => throw error

/-- What follows a routine with a handler: its value, or the handler of its error. -/
def handled (handler : ε → Routine ω ρ μ ε α) :
    Except ε α × μ → Program ω ρ Empty (Except ε α × μ)
  | (.ok value, memory) => pure (.ok value, memory)
  | (.error error, memory) => handler error memory

/-- The routine with a handler, which goes on where it throws an error. -/
def catching (routine : Routine ω ρ μ ε α) (handler : ε → Routine ω ρ μ ε α) :
    Routine ω ρ μ ε α :=
  fun memory => routine memory >>= handled handler

/-- The routine that returns the memory as it stands. -/
def remembered : Routine ω ρ μ ε μ :=
  fun memory => pure (.ok memory, memory)

/-- The routine that changes the memory and returns. -/
def modify (change : μ → μ) : Routine ω ρ μ ε Unit :=
  fun memory => pure (.ok (), change memory)

/-- Change the memory behind a routine, also behind its error. -/
def restoring (routine : Routine ω ρ μ ε α) (change : μ → μ) : Routine ω ρ μ ε α :=
  fun memory => routine memory >>= fun answer => pure (answer.1, change answer.2)

/-- The routine on a memory of its own, which leaves the memory around it as it is. -/
def fresh (own : μ) (routine : Routine ω ρ μ ε α) : Routine ω ρ μ ε α :=
  fun memory => routine own >>= fun answer => pure (answer.1, memory)

/-- A program without a memory as a routine, whose errors are thrown. -/
def ofProgram (program : Program ω ρ ε α) : Routine ω ρ μ ε α :=
  fun memory => (program >>= fun value => pure (Except.ok value, memory)).handle fun error =>
    pure (.error error, memory)

/-! ## Triples -/

/-- How a routine may end, besides being cut off. -/
def settled (post : α → μ → σ → Prop) (fail : ε → μ → σ → Prop) :
    Except ε α × μ → σ → Prop
  | (.ok value, memory), state => post value memory state
  | (.error error, memory), state => fail error memory state

/-- From `pre`, every run returns in `post`, throws in `fail`, or is cut off in `crash`. -/
def Triple (env : σ → (op : ω) → ρ op → σ → Prop) (pre : μ → σ → Prop)
    (routine : Routine ω ρ μ ε α) (post : α → μ → σ → Prop) (fail : ε → μ → σ → Prop)
    (crash : σ → Prop) : Prop :=
  ∀ memory state, pre memory state →
    Ensures env (ending crash (fun _ _ => False) (settled post fail)) (routine memory)
      state

variable {env : σ → (op : ω) → ρ op → σ → Prop} {routine : Routine ω ρ μ ε α}
  {pre : μ → σ → Prop} {post : α → μ → σ → Prop} {fail : ε → μ → σ → Prop} {crash : σ → Prop}

theorem triple_pure {value : α} (h : ∀ memory state, pre memory state → post value memory state)
    (hcrash : ∀ memory state, pre memory state → crash state) :
    Triple env pre (pure value : Routine ω ρ μ ε α) post fail crash :=
  fun memory state hpre => Program.ensures_pure.mpr ⟨hcrash memory state hpre, h memory state hpre⟩

theorem triple_throw {error : ε} (h : ∀ memory state, pre memory state → fail error memory state)
    (hcrash : ∀ memory state, pre memory state → crash state) :
    Triple env pre (throw error : Routine ω ρ μ ε α) post fail crash :=
  fun memory state hpre => Program.ensures_pure.mpr ⟨hcrash memory state hpre, h memory state hpre⟩

/-- A routine whose every value is followed by a routine keeps what the two of them keep. -/
theorem Triple.bind {rest : α → Routine ω ρ μ ε β} {after : β → μ → σ → Prop}
    (h : Triple env pre routine post fail crash)
    (hrest : ∀ value, Triple env (post value) (rest value) after fail crash)
    (hfail : ∀ error memory state, fail error memory state → crash state) :
    Triple env pre (routine >>= rest) after fail crash := by
  refine fun memory state hpre => (h memory state hpre).bind (fun _ hcrash => hcrash)
    (fun error => error.elim) ?_
  rintro ⟨error | value, kept⟩ final hends
  · exact Program.ensures_pure.mpr ⟨hfail error kept final hends, hends⟩
  · exact hrest value kept final hends

/-- A triple holds under a stronger condition before the routine and weaker ones behind it. -/
theorem Triple.mono {pre' : μ → σ → Prop} {post' : α → μ → σ → Prop} {fail' : ε → μ → σ → Prop}
    {crash' : σ → Prop} (h : Triple env pre routine post fail crash)
    (hpre : ∀ memory state, pre' memory state → pre memory state)
    (hpost : ∀ value memory state, post value memory state → post' value memory state)
    (hfail : ∀ error memory state, fail error memory state → fail' error memory state)
    (hcrash : ∀ state, crash state → crash' state) :
    Triple env pre' routine post' fail' crash' :=
  fun memory state hstate =>
    (h memory state (hpre memory state hstate)).mono fun outcome final hends => by
    match outcome, hends with
    | .interrupted, hends => exact hcrash final hends
    | .returned (.ok value, kept), hends => exact hpost value kept final hends
    | .returned (.error error, kept), hends => exact hfail error kept final hends

/-- One operation leads from the states before it to those that its answers show. -/
theorem triple_perform (op : ω) {post : ρ op → μ → σ → Prop}
    (h : ∀ memory state reply following, pre memory state → env state op reply following →
      post reply memory following) (hpre : ∀ memory state, pre memory state → crash state)
    (hpost : ∀ reply memory state, post reply memory state → crash state) :
    Triple env pre (perform op : Routine ω ρ μ ε (ρ op)) post fail crash := by
  intro memory state hstate
  refine Program.ensures_bind.mpr ((Program.ensures_perform op).mpr
    ⟨hpre memory state hstate, fun reply following hreply => ?_⟩)
  have hends := h memory state reply following hstate hreply
  have hcrash := hpost reply memory following hends
  exact ⟨hcrash, Program.ensures_pure.mpr ⟨hcrash, hends⟩⟩

/-- A check leads to its error where the condition holds, and goes on where it does not. -/
theorem triple_throw_if {condition : Prop} [Decidable condition] {error : ε}
    (hfail : ∀ memory state, pre memory state → condition → fail error memory state)
    (hcrash : ∀ memory state, pre memory state → crash state) :
    Triple env pre (throwIf condition error : Routine ω ρ μ ε Unit)
      (fun _ memory state => pre memory state ∧ ¬ condition) fail crash := by
  unfold throwIf
  split
  · next h => exact triple_throw (fun memory state hpre => hfail memory state hpre h) hcrash
  · next h => exact triple_pure (fun memory state hpre => ⟨hpre, h⟩) hcrash

/-- A routine with a handler leads where it returns, and where the handler of its errors leads. -/
theorem Triple.catching {inner : ε → μ → σ → Prop} {handler : ε → Routine ω ρ μ ε α}
    (h : Triple env pre routine post inner crash)
    (hhandler : ∀ error, Triple env (inner error) (handler error) post fail crash)
    (hpost : ∀ value memory state, post value memory state → crash state) :
    Triple env pre (routine.catching handler) post fail crash := by
  refine fun memory state hpre => (h memory state hpre).bind (fun _ hcrash => hcrash)
    (fun error => error.elim) ?_
  rintro ⟨error | value, kept⟩ final hends
  · exact hhandler error kept final hends
  · exact Program.ensures_pure.mpr ⟨hpost value kept final hends, hends⟩

theorem triple_remembered (hcrash : ∀ memory state, pre memory state → crash state) :
    Triple env pre (remembered : Routine ω ρ μ ε μ)
      (fun value memory state => pre memory state ∧ value = memory) fail crash :=
  fun memory state hpre => Program.ensures_pure.mpr ⟨hcrash memory state hpre, hpre, rfl⟩

theorem triple_modify {change : μ → μ} {post : Unit → μ → σ → Prop}
    (h : ∀ memory state, pre memory state → post () (change memory) state)
    (hcrash : ∀ memory state, pre memory state → crash state) :
    Triple env pre (modify change : Routine ω ρ μ ε Unit) post fail crash :=
  fun memory state hpre => Program.ensures_pure.mpr ⟨hcrash memory state hpre, h memory state hpre⟩

/-- A routine behind which the memory is changed, whether it returned or threw. -/
theorem Triple.restoring {change : μ → μ}
    (h : Triple env pre routine (fun value memory => post value (change memory))
      (fun error memory => fail error (change memory)) crash)
    (hpost : ∀ value memory state, post value memory state → crash state)
    (hfail : ∀ error memory state, fail error memory state → crash state) :
    Triple env pre (routine.restoring change) post fail crash := by
  refine fun memory state hpre => (h memory state hpre).bind (fun _ hcrash => hcrash)
    (fun error => error.elim) ?_
  rintro ⟨error | value, kept⟩ final hends
  · exact Program.ensures_pure.mpr ⟨hfail error _ final hends, hends⟩
  · exact Program.ensures_pure.mpr ⟨hpost value _ final hends, hends⟩

/-- A routine on a memory of its own leads to its value or error under the memory around it. -/
theorem Triple.fresh {own : μ} {start : μ → σ → Prop}
    (h : ∀ memory, Triple env (fun kept state => kept = own ∧ start memory state) routine
      (fun returned _ state => post returned memory state)
      (fun thrown _ state => fail thrown memory state) crash)
    (hpost : ∀ value memory state, post value memory state → crash state)
    (hfail : ∀ error memory state, fail error memory state → crash state) :
    Triple env start (routine.fresh own) post fail crash := by
  refine fun memory state hpre => (h memory own state ⟨rfl, hpre⟩).bind (fun _ hcrash => hcrash)
    (fun error => error.elim) ?_
  rintro ⟨error | value, kept⟩ final hends
  · exact Program.ensures_pure.mpr ⟨hfail error memory final hends, hends⟩
  · exact Program.ensures_pure.mpr ⟨hpost value memory final hends, hends⟩

/-- A program without a memory, as a routine, leads where the program leads. -/
theorem triple_of_program {program : Program ω ρ ε α}
    (h : ∀ memory state, pre memory state → Ensures env
      (ending crash (fun error => fail error memory) fun value => post value memory) program state)
    (hpost : ∀ value memory state, post value memory state → crash state)
    (hfail : ∀ error memory state, fail error memory state → crash state) :
    Triple env pre (ofProgram program) post fail crash := by
  intro memory state hpre
  refine Program.ensures_handle.mpr ((h memory state hpre).bind (fun _ hcrash => hcrash) ?_ ?_)
  · intro error final hends
    exact Program.ensures_pure.mpr ⟨hfail error memory final hends, hends⟩
  · intro value final hends
    exact Program.ensures_pure.mpr ⟨hpost value memory final hends, hends⟩

/-! ## Programs over routines -/

/-- The program with each operation made by a routine. The memory goes on from call to call. -/
def implement {κ : Type} {val : κ → Type} {ε' : Type}
    (made : (call : κ) → Routine ω ρ μ ε (val call)) :
    Program κ (fun call => Except ε (val call)) ε' α → μ → Program ω ρ ε' (α × μ)
  | .done value, memory => .done (value, memory)
  | .raise error, _ => .raise error
  | .issue call next, memory =>
      (made call memory).handle Empty.elim >>= fun answer =>
        implement made (next answer.1) answer.2

variable {κ : Type} {val : κ → Type} {ε' : Type} {made : (call : κ) → Routine ω ρ μ ε (val call)}
  {program : Program κ (fun call => Except ε (val call)) ε' α} {inv : μ → σ → Prop}

/-- What a program goes on with behind a routine is reached from each of its ends. -/
theorem Triple.before {rest : Except ε α × μ → Program ω ρ ε' β}
    {ends : Outcome ε' β → σ → Prop} {memory : μ} {state : σ}
    (h : Triple env pre routine post fail crash) (hpre : pre memory state)
    (hcrash : ∀ state, crash state → ends .interrupted state)
    (hpost : ∀ value kept state, post value kept state →
      Ensures env ends (rest (.ok value, kept)) state)
    (hfail : ∀ error kept state, fail error kept state →
      Ensures env ends (rest (.error error, kept)) state) :
    Ensures env ends ((routine memory).handle Empty.elim >>= rest) state := by
  have hroutine : Ensures env (ending crash (fun _ _ => False) (settled post fail))
      ((routine memory).handle Empty.elim : Program ω ρ ε' _) state :=
    (h memory state hpre).handle (fun _ hends => hends) (fun error => error.elim)
      fun _ _ hends => hends
  refine hroutine.bind (fun final hends => hcrash final hends) (fun _ _ => False.elim) ?_
  rintro ⟨error | value, kept⟩ final hends
  · exact hfail error kept final hends
  · exact hpost value kept final hends

/-- A call whose errors the program does not catch. -/
theorem Triple.ensures_call {call : κ}
    {rest : val call → Program κ (fun call => Except ε (val call)) ε β}
    {post : val call → μ → σ → Prop} {ends : Outcome ε (β × μ) → σ → Prop} {memory : μ} {state : σ}
    (h : Triple env pre (made call) post fail crash) (hpre : pre memory state)
    (hcrash : ∀ state, crash state → ends .interrupted state)
    (hpost : ∀ value kept state, post value kept state →
      Ensures env ends (implement made (rest value) kept) state)
    (hfail : ∀ error kept state, fail error kept state →
      ends .interrupted state ∧ ends (.raised error) state) :
    Ensures env ends (implement made (Program.call call >>= rest) memory) state :=
  h.before hpre hcrash hpost fun error kept state hends =>
    Program.ensures_raise.mpr (hfail error kept state hends)

/-- What the routine of every call keeps holds at every point of a program over the calls. -/
theorem ensures_implement {memory : μ} {state : σ}
    (hmade : ∀ call, Triple env inv (made call) (fun _ => inv) (fun _ => inv) crash)
    (hcrash : ∀ memory state, inv memory state → crash state) (hinv : inv memory state) :
    Ensures env (ending crash (fun _ => crash) fun answer => inv answer.2)
      (implement made program memory) state := by
  induction program generalizing memory state with
  | done value => exact Program.ensures_pure.mpr ⟨hcrash _ _ hinv, hinv⟩
  | raise error => exact Program.ensures_raise.mpr ⟨hcrash _ _ hinv, hcrash _ _ hinv⟩
  | issue call next ih =>
      exact (hmade call).before hinv (fun _ h => h) (fun value _ _ h => ih (.ok value) h)
        fun error _ _ h => ih (.error error) h

theorem bind_assoc {γ : Type} (program : Program ω ρ ε α) (rest : α → Program ω ρ ε β)
    (last : β → Program ω ρ ε γ) :
    (program >>= rest) >>= last = program >>= fun value => rest value >>= last := by
  induction program with
  | done value => rfl
  | raise error => rfl
  | issue op next ih => exact congrArg (Program.issue op) (funext fun reply => ih reply)

/-- The memory goes on from a program to what follows it. -/
theorem implement_bind {first : Program κ (fun call => Except ε (val call)) ε' α}
    {rest : α → Program κ (fun call => Except ε (val call)) ε' β} {memory : μ} :
    implement made (first >>= rest) memory =
      implement made first memory >>= fun answer => implement made (rest answer.1) answer.2 := by
  induction first generalizing memory with
  | done value => rfl
  | raise error => rfl
  | issue call next ih =>
      refine Eq.trans ?_ (bind_assoc _ _ _).symm
      exact congrArg (fun after => (made call memory).handle Empty.elim >>= after)
        (funext fun answer : Except ε (val call) × μ => ih answer.1)

/-- A program over some of the calls is implemented by the routines of these calls. -/
theorem implement_embed {κ' : Type} {whole : κ' → κ}
    {program : Program κ' (fun call => Except ε (val (whole call))) ε' α} {memory : μ} :
    implement made (program.embed whole fun _ reply => reply) memory =
      implement (fun call => made (whole call)) program memory := by
  induction program generalizing memory with
  | done value => rfl
  | raise error => rfl
  | issue call next ih =>
      show (made (whole call) memory).handle Empty.elim >>= _ =
        (made (whole call) memory).handle Empty.elim >>= _
      exact congrArg _ (funext fun answer : Except ε (val (whole call)) × μ => ih answer.1)

end Routine
