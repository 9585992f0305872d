import NvidiaConverge.Library.Program

/-!
# Triples

A program between a condition on the states in which it starts and those on the states in which it
returns, raises and is cut off. The rules build the triple of a program from those of its parts;
`Triple.on_error` is the rule for a part whose errors are cleaned up behind.
-/

namespace Program

variable {ω : Type} {ρ : ω → Type} {ε α β σ : Type}

/-- From `pre`, every run returns in `post`, raises in `fail`, or is cut off in `crash`. -/
def Triple (env : σ → (op : ω) → ρ op → σ → Prop) (pre : σ → Prop) (program : Program ω ρ ε α)
    (post : α → σ → Prop) (fail crash : σ → Prop) : Prop :=
  ∀ state, pre state → Ensures env (ending crash (fun _ => fail) post) program state

/-- Clean up behind an error and raise it again. -/
def onError (program : Program ω ρ ε α) (cleanup : Program ω ρ ε Unit) : Program ω ρ ε α :=
  program.handle fun error => do
    cleanup
    .raise error

/-- A body that is closed behind it, whether it returns or raises. An error of the close takes the
place of what the body ended with. -/
def closing (close : Program ω ρ ε Unit) (body : Program ω ρ ε α) : Program ω ρ ε α := do
  let value ← body.onError close
  close
  pure value

/-- Make a call that may fail, and raise its error. -/
def call {val : ω → Type} (op : ω) : Program ω (fun op => Except ε (val op)) ε (val op) := do
  match ← perform op with
  | .ok value => pure value
  | .error error => .raise error

variable {env : σ → (op : ω) → ρ op → σ → Prop} {program : Program ω ρ ε α}
  {pre fail crash : σ → Prop} {post : α → σ → Prop}

theorem triple_pure {value : α} (h : ∀ state, pre state → post value state)
    (hcrash : ∀ state, pre state → crash state) :
    Triple env pre (pure value : Program ω ρ ε α) post fail crash :=
  fun state hpre => ensures_pure.mpr ⟨hcrash state hpre, h state hpre⟩

theorem triple_raise {error : ε} (h : ∀ state, pre state → fail state)
    (hcrash : ∀ state, pre state → crash state) :
    Triple env pre (.raise error : Program ω ρ ε α) post fail crash :=
  fun state hpre => ensures_raise.mpr ⟨hcrash state hpre, h state hpre⟩

/-- A program whose every value is followed by a program keeps what the two of them keep. -/
theorem Triple.bind {rest : α → Program ω ρ ε β} {after : β → σ → Prop}
    (h : Triple env pre program post fail crash)
    (hrest : ∀ value, Triple env (post value) (rest value) after fail crash) :
    Triple env pre (program >>= rest) after fail crash :=
  fun state hpre => (h state hpre).bind (fun _ hcrash => hcrash) (fun _ _ hfail => hfail)
    fun value final hpost => hrest value final hpost

/-- A triple holds under a stronger condition before the program and weaker ones behind it. -/
theorem Triple.mono {pre' fail' crash' : σ → Prop} {post' : α → σ → Prop}
    (h : Triple env pre program post fail crash) (hpre : ∀ state, pre' state → pre state)
    (hpost : ∀ value state, post value state → post' value state)
    (hfail : ∀ state, fail state → fail' state) (hcrash : ∀ state, crash state → crash' state) :
    Triple env pre' program post' fail' crash' :=
  fun state hstate => (h state (hpre state hstate)).mono fun outcome final hends => by
    cases outcome with
    | interrupted => exact hcrash final hends
    | raised error => exact hfail final hends
    | returned value => exact hpost value final hends

/-- A check leads to its error, or behind it to the states where its condition does not hold. -/
theorem triple_raise_if {condition : Prop} [Decidable condition] {error : ε}
    (hfail : ∀ state, pre state → fail state) (hcrash : ∀ state, pre state → crash state) :
    Triple env pre (raiseIf condition error : Program ω ρ ε Unit)
      (fun _ state => pre state ∧ ¬ condition) fail crash :=
  fun state hpre => ensures_raise_if.mpr
    ⟨hcrash state hpre, fun _ => hfail state hpre, fun h => ⟨hpre, h⟩⟩

/-- A call leads from the states before it to those that its value or its error shows. -/
theorem triple_call {val : ω → Type} {env : σ → (op : ω) → Except ε (val op) → σ → Prop} (op : ω)
    {post : val op → σ → Prop}
    (hok : ∀ state value after, pre state → env state op (.ok value) after → post value after)
    (herror : ∀ state error after, pre state → env state op (.error error) after → fail after)
    (hpre : ∀ state, pre state → crash state)
    (hpost : ∀ value state, post value state → crash state)
    (hfail : ∀ state, fail state → crash state) :
    Triple env pre (call op) post fail crash := by
  intro state hstate
  refine ensures_bind.mpr ((ensures_perform op).mpr ⟨hpre state hstate, ?_⟩)
  rintro (error | value) after hanswer
  · have h := herror state error after hstate hanswer
    exact ⟨hfail after h, ensures_raise.mpr ⟨hfail after h, h⟩⟩
  · have h := hok state value after hstate hanswer
    exact ⟨hpost value after h, ensures_pure.mpr ⟨hpost value after h, h⟩⟩

/-- A result that is there already leads to its value or to its error. -/
theorem triple_of_except {result : Except ε α} (hok : ∀ state value, pre state →
      result = .ok value → post value state) (hfail : ∀ state, pre state → fail state)
    (hcrash : ∀ state, pre state → crash state) :
    Triple env pre (ofExcept result) post fail crash :=
  fun state hpre => ensures_of_except.mpr ⟨hcrash state hpre, fun value => hok state value hpre,
    fun _ _ => hfail state hpre⟩

/-- A part whose errors are cleaned up behind. -/
theorem Triple.on_error {cleanup : Program ω ρ ε Unit} {inner innerCrash : σ → Prop}
    (h : Triple env pre program post inner innerCrash)
    (hcleanup : Triple env inner cleanup (fun _ => fail) fail crash)
    (hinner : ∀ state, innerCrash state → crash state) (hfail : ∀ state, fail state → crash state) :
    Triple env pre (onError program cleanup) post fail crash := by
  intro state hpre
  refine (h state hpre).handle hinner ?_ fun _ _ hpost => hpost
  intro error final herror
  refine (hcleanup final herror).bind (fun _ hcrash => hcrash) (fun _ _ hfail => hfail) ?_
  intro _ last hlast
  exact ensures_raise.mpr ⟨hfail last hlast, hlast⟩

/-- A part whose errors are raised again with another text. -/
theorem Triple.reraise {ε' : Type} {text : ε → ε'} (h : Triple env pre program post fail crash)
    (hfail : ∀ state, fail state → crash state) :
    Triple env pre (program.handle fun error => (.raise (text error) : Program ω ρ ε' α)) post fail
      crash := by
  intro state hpre
  refine (h state hpre).handle (fun _ hcrash => hcrash) ?_ fun _ _ hpost => hpost
  exact fun _ final herror => ensures_raise.mpr ⟨hfail final herror, herror⟩

/-- A body that is closed behind it: what it ensures, and what the close makes of it. -/
theorem Ensures.closing {state : σ} {ends : Outcome ε α → σ → Prop} {interrupted : σ → Prop}
    {raised : ε → σ → Prop} {returned : α → σ → Prop}
    {close : Program ω ρ ε Unit}
    (h : Ensures env (ending interrupted raised returned) program state)
    (hinterrupted : ∀ final, interrupted final → ends .interrupted final)
    (hraised : ∀ error final, raised error final →
      Ensures env (ending (ends .interrupted) (fun failure => ends (.raised failure))
        fun _ closed => ends .interrupted closed ∧ ends (.raised error) closed) close final)
    (hreturned : ∀ value final, returned value final →
      Ensures env (ending (ends .interrupted) (fun failure => ends (.raised failure))
        fun _ closed => ends .interrupted closed ∧ ends (.returned value) closed) close final) :
    Ensures env ends (closing close program) state := by
  have hbody : Ensures env (ending (ends .interrupted) (fun error => ends (.raised error)) returned)
      (program.onError close) state := by
    refine h.handle hinterrupted (fun error final herror => ?_) fun _ _ hvalue => hvalue
    exact (hraised error final herror).bind (fun _ hcut => hcut) (fun _ _ hfailure => hfailure)
      fun _ _ hclosed => ensures_raise.mpr hclosed
  refine hbody.bind (fun _ hcut => hcut) (fun _ _ herror => herror) fun value final hvalue => ?_
  exact (hreturned value final hvalue).bind (fun _ hcut => hcut) (fun _ _ hfailure => hfailure)
    fun _ _ hclosed => ensures_pure.mpr hclosed

/-- A program behind which something is closed, whether it returned or raised. -/
theorem Triple.closing {close : Program ω ρ ε Unit} (h : Triple env pre program post fail crash)
    (hpost : ∀ value, Triple env (post value) close (fun _ => post value) fail crash)
    (hfail : Triple env fail close (fun _ => fail) fail crash)
    (hcrash : ∀ state, fail state → crash state)
    (hreturned : ∀ value state, post value state → crash state) :
    Triple env pre (closing close program) post fail crash := by
  intro state hpre
  refine (h state hpre).closing (fun _ hcut => hcut) (fun error final hraised => ?_)
    fun value final hvalue => ?_
  · exact (hfail.mono (fun _ h => h) (fun _ _ h => ⟨hcrash _ h, h⟩) (fun _ h => h)
      fun _ h => h) final hraised
  · exact ((hpost value).mono (fun _ h => h) (fun _ _ h => ⟨hreturned value _ h, h⟩)
      (fun _ h => h) fun _ h => h) final hvalue

end Program
