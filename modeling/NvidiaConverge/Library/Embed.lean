import NvidiaConverge.Library.Triple

/-!
# Programs of a part

A program over the operations of a part, run as one over those of the whole system. What it ensures
there is what it ensures among the answers that the whole gives to the part: `ensures_embed`. The
other way, `Runs.along` reads a run on a whole state as a run on what a part of the state shows.
-/

namespace Program

variable {ω ω' : Type} {ρ : ω → Type} {ρ' : ω' → Type} {ε α σ : Type}

/-- The program with each operation made by one of the whole, whose reply is read back. -/
def embed (whole : ω → ω') (read : (op : ω) → ρ' (whole op) → ρ op) :
    Program ω ρ ε α → Program ω' ρ' ε α
  | .done value => .done value
  | .raise error => .raise error
  | .issue op next => .issue (whole op) fun reply => embed whole read (next (read op reply))

variable {whole : ω → ω'} {read : (op : ω) → ρ' (whole op) → ρ op} {program : Program ω ρ ε α}
  {env : σ → (op : ω') → ρ' op → σ → Prop}

/-- The environment of a part: the whole program's environment, read through its answers. -/
def within (whole : ω → ω') (read : (op : ω) → ρ' (whole op) → ρ op)
    (env : σ → (op : ω') → ρ' op → σ → Prop) (state : σ) (op : ω) (reply : ρ op) (following : σ) :
    Prop :=
  ∃ answer, read op answer = reply ∧ env state (whole op) answer following

/-- An embedded program ensures what the program ensures in the environment of its part. -/
theorem ensures_embed {post : Outcome ε α → σ → Prop} {state : σ} :
    Ensures env post (program.embed whole read) state ↔
      Ensures (within whole read env) post program state := by
  induction program generalizing state with
  | done value => exact ensures_pure.trans ensures_pure.symm
  | raise error => exact ensures_raise.trans ensures_raise.symm
  | issue op next ih =>
      rw [embed, Ensures, Ensures]
      refine and_congr_right fun _ => ⟨?_, ?_⟩
      · rintro h _ following ⟨answer, rfl, hanswer⟩
        exact ih _ |>.mp (h answer following hanswer)
      · intro h answer following hanswer
        exact ih _ |>.mpr (h _ following ⟨answer, rfl, hanswer⟩)

theorem Triple.embed {pre fail crash : σ → Prop} {post : α → σ → Prop}
    (h : Triple (within whole read env) pre program post fail crash) :
    Triple env pre (program.embed whole read) post fail crash :=
  fun state hpre => ensures_embed.mpr (h state hpre)

/-! ## Views of a run -/

variable {τ : Type} {start final : σ} {outcome : Outcome ε α}
  {inner : σ → (op : ω) → ρ op → σ → Prop} {seen : τ → (op : ω) → ρ op → τ → Prop}

/-- A run as it is seen from a part of the state. -/
theorem Runs.along (view : σ → τ) (hview : ∀ state op reply following,
      inner state op reply following → seen (view state) op reply (view following))
    (h : Runs inner program start outcome final) :
    Runs seen program (view start) outcome (view final) := by
  induction h with
  | interrupted => exact .interrupted
  | returned => exact .returned
  | raised => exact .raised
  | issued hreply _ ih => exact .issued (hview _ _ _ _ hreply) ih

/-- What every operation keeps holds at the end of a run that began with it. -/
theorem Runs.keeps {inv : σ → Prop} (hstep : ∀ state op reply following, inv state →
      inner state op reply following → inv following)
    (h : Runs inner program start outcome final) (hstart : inv start) : inv final := by
  induction h with
  | interrupted => exact hstart
  | returned => exact hstart
  | raised => exact hstart
  | issued hreply _ ih => exact ih (hstep _ _ _ _ hstart hreply)

end Program
