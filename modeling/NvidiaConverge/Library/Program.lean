import Mathlib

/-!
# Programs that issue operations

A program returns a value, raises an error, or issues an operation and goes on with the reply. Who
replies is the environment, a relation between a state, an operation, its reply and the next
state, so that a reply may be one of many. `Runs` says how a run of a program may end: it returns,
it raises, or it is cut off after any number of operations. `Ensures` is the weakest condition
under which every run ends well; read `ensures_iff_runs` first, then the rules by which the
condition of a program comes from those of its parts.
-/

/-- A program over operations `ω`, each with its type of replies. -/
inductive Program (ω : Type) (ρ : ω → Type) (ε α : Type) where
  | done (value : α)
  | raise (error : ε)
  | issue (op : ω) (next : ρ op → Program ω ρ ε α)

namespace Program

variable {ω : Type} {ρ : ω → Type} {ε ε' α β σ : Type}

/-- One program after another; an error stops both. -/
def bind : Program ω ρ ε α → (α → Program ω ρ ε β) → Program ω ρ ε β
  | .done value, rest => rest value
  | .raise error, _ => .raise error
  | .issue op next, rest => .issue op fun reply => (next reply).bind rest

instance : Monad (Program ω ρ ε) where
  pure := .done
  bind := .bind

/-- The program that issues one operation and returns its reply. -/
def perform (op : ω) : Program ω ρ ε (ρ op) :=
  .issue op .done

/-- The program that raises the error when the condition holds, and returns otherwise. -/
def raiseIf (condition : Prop) [Decidable condition] (error : ε) : Program ω ρ ε Unit :=
  if condition then .raise error else .done ()

/-- A value or an error that is already there. -/
def ofExcept : Except ε α → Program ω ρ ε α
  | .ok value => .done value
  | .error error => .raise error

/-- The program with a handler, which goes on where it raises an error. -/
def handle : Program ω ρ ε α → (ε → Program ω ρ ε' α) → Program ω ρ ε' α
  | .done value, _ => .done value
  | .raise error, handler => handler error
  | .issue op next, handler => .issue op fun reply => (next reply).handle handler

/-- How a run ends: it is cut off, it raises an error, or it returns a value. -/
inductive Outcome (ε α : Type) where
  | interrupted
  | raised (error : ε)
  | returned (value : α)
  deriving DecidableEq

/-! ## Runs -/

/-- The runs of a program in an environment, cut off before any operation or carried to its end. -/
inductive Runs (env : σ → (op : ω) → ρ op → σ → Prop) :
    Program ω ρ ε α → σ → Outcome ε α → σ → Prop where
  | interrupted {program : Program ω ρ ε α} {state : σ} : Runs env program state .interrupted state
  | returned {value : α} {state : σ} : Runs env (.done value) state (.returned value) state
  | raised {error : ε} {state : σ} : Runs env (.raise error) state (.raised error) state
  | issued {op : ω} {next : ρ op → Program ω ρ ε α} {reply : ρ op} {state following final : σ}
      {outcome : Outcome ε α} (hreply : env state op reply following)
      (hrest : Runs env (next reply) following outcome final) :
      Runs env (.issue op next) state outcome final

/-- The condition under which every run of the program ends in `post`. -/
def Ensures (env : σ → (op : ω) → ρ op → σ → Prop) (post : Outcome ε α → σ → Prop) :
    Program ω ρ ε α → σ → Prop
  | .done value, state => post .interrupted state ∧ post (.returned value) state
  | .raise error, state => post .interrupted state ∧ post (.raised error) state
  | .issue op next, state =>
      post .interrupted state ∧
        ∀ reply following, env state op reply following → Ensures env post (next reply) following

variable {env : σ → (op : ω) → ρ op → σ → Prop} {post post' : Outcome ε α → σ → Prop}
  {program : Program ω ρ ε α} {state : σ}

/-- A program that ensures a condition may be cut off before its first operation. -/
theorem Ensures.start (h : Ensures env post program state) : post .interrupted state := by
  cases program with
  | done value => exact h.1
  | raise error => exact h.1
  | issue op next => exact h.1

theorem ensures_iff_runs :
    Ensures env post program state ↔
      ∀ outcome final, Runs env program state outcome final → post outcome final := by
  constructor
  · intro h outcome final hruns
    induction hruns with
    | interrupted => exact h.start
    | returned => exact h.2
    | raised => exact h.2
    | issued hreply _ ih => exact ih (h.2 _ _ hreply)
  · intro h
    induction program generalizing state with
    | done value => exact ⟨h _ _ .interrupted, h _ _ .returned⟩
    | raise error => exact ⟨h _ _ .interrupted, h _ _ .raised⟩
    | issue op next ih =>
        refine ⟨h _ _ .interrupted,
          fun reply following hreply => ih reply fun outcome final hruns => ?_⟩
        exact h _ _ (.issued hreply hruns)

theorem Ensures.runs (h : Ensures env post program state) {outcome : Outcome ε α} {final : σ}
    (hruns : Runs env program state outcome final) : post outcome final :=
  ensures_iff_runs.mp h outcome final hruns

/-- A run in one environment is a run in every environment that admits its answers. -/
theorem Runs.mono {env' : σ → (op : ω) → ρ op → σ → Prop} {outcome : Outcome ε α} {final : σ}
    (h : Runs env program state outcome final)
    (himp : ∀ state op reply following, env state op reply following →
      env' state op reply following) : Runs env' program state outcome final := by
  induction h with
  | interrupted => exact .interrupted
  | returned => exact .returned
  | raised => exact .raised
  | issued hreply _ ih => exact .issued (himp _ _ _ _ hreply) ih

/-- A program ensures no less where fewer replies are possible. -/
theorem Ensures.narrow {env' : σ → (op : ω) → ρ op → σ → Prop} (h : Ensures env' post program state)
    (himp : ∀ state op reply following, env state op reply following →
      env' state op reply following) : Ensures env post program state :=
  ensures_iff_runs.mpr fun _ _ hruns => h.runs (hruns.mono himp)

theorem Ensures.mono (h : Ensures env post program state)
    (himp : ∀ outcome final, post outcome final → post' outcome final) :
    Ensures env post' program state :=
  ensures_iff_runs.mpr fun outcome final hruns => himp outcome final (h.runs hruns)

theorem Ensures.and (h : Ensures env post program state) (h' : Ensures env post' program state) :
    Ensures env (fun outcome final => post outcome final ∧ post' outcome final) program state :=
  ensures_iff_runs.mpr fun _ _ hruns => ⟨h.runs hruns, h'.runs hruns⟩

/-! ## Rules -/

theorem ensures_pure {value : α} :
    Ensures env post (pure value : Program ω ρ ε α) state ↔
      post .interrupted state ∧ post (.returned value) state :=
  Iff.rfl

theorem ensures_raise {error : ε} :
    Ensures env post (.raise error : Program ω ρ ε α) state ↔
      post .interrupted state ∧ post (.raised error) state :=
  Iff.rfl

/-- What the first of two programs has to ensure. -/
def before (env : σ → (op : ω) → ρ op → σ → Prop) (post : Outcome ε β → σ → Prop)
    (rest : α → Program ω ρ ε β) : Outcome ε α → σ → Prop
  | .interrupted, state => post .interrupted state
  | .raised error, state => post (.raised error) state
  | .returned value, state => Ensures env post (rest value) state

/-- Two parts in a row ensure what the first ensures of the states where the second begins. -/
theorem ensures_bind {post : Outcome ε β → σ → Prop} {rest : α → Program ω ρ ε β} :
    Ensures env post (program >>= rest) state ↔
      Ensures env (before env post rest) program state := by
  show Ensures env post (program.bind rest) state ↔ _
  induction program generalizing state with
  | done value => exact ⟨fun h => ⟨h.start, h⟩, fun h => h.2⟩
  | raise error => exact Iff.rfl
  | issue op next ih =>
      exact and_congr_right fun _ => forall₂_congr fun reply following =>
        imp_congr_right fun _ => ih reply

/-- A condition with a part for each way to end. -/
def ending (interrupted : σ → Prop) (raised : ε → σ → Prop) (returned : α → σ → Prop) :
    Outcome ε α → σ → Prop
  | .interrupted, state => interrupted state
  | .raised error, state => raised error state
  | .returned value, state => returned value state

/-- A program before another: what it ensures, and what the other makes of it. -/
theorem Ensures.bind {interrupted : σ → Prop} {raised : ε → σ → Prop} {returned : α → σ → Prop}
    {post : Outcome ε β → σ → Prop} {rest : α → Program ω ρ ε β}
    (h : Ensures env (ending interrupted raised returned) program state)
    (hinterrupted : ∀ final, interrupted final → post .interrupted final)
    (hraised : ∀ error final, raised error final → post (.raised error) final)
    (hreturned : ∀ value final, returned value final → Ensures env post (rest value) final) :
    Ensures env post (program >>= rest) state := by
  refine ensures_bind.mpr (h.mono fun outcome final hpost => ?_)
  cases outcome with
  | interrupted => exact hinterrupted final hpost
  | raised error => exact hraised error final hpost
  | returned value => exact hreturned value final hpost

/-- What a program has to ensure before its errors are handled. -/
def catching (env : σ → (op : ω) → ρ op → σ → Prop) (post : Outcome ε' α → σ → Prop)
    (handler : ε → Program ω ρ ε' α) : Outcome ε α → σ → Prop
  | .interrupted, state => post .interrupted state
  | .raised error, state => Ensures env post (handler error) state
  | .returned value, state => post (.returned value) state

/-- A program with a handler ensures what the program ensures of the states it is handled in. -/
theorem ensures_handle {post : Outcome ε' α → σ → Prop} {handler : ε → Program ω ρ ε' α} :
    Ensures env post (program.handle handler) state ↔
      Ensures env (catching env post handler) program state := by
  induction program generalizing state with
  | done value => exact Iff.rfl
  | raise error => exact ⟨fun h => ⟨h.start, h⟩, fun h => h.2⟩
  | issue op next ih =>
      exact and_congr_right fun _ => forall₂_congr fun reply following =>
        imp_congr_right fun _ => ih reply

/-- A program whose errors are handled: what it ensures, and what the handler makes of it. -/
theorem Ensures.handle {interrupted : σ → Prop} {raised : ε → σ → Prop} {returned : α → σ → Prop}
    {post : Outcome ε' α → σ → Prop} {handler : ε → Program ω ρ ε' α}
    (h : Ensures env (ending interrupted raised returned) program state)
    (hinterrupted : ∀ final, interrupted final → post .interrupted final)
    (hraised : ∀ error final, raised error final → Ensures env post (handler error) final)
    (hreturned : ∀ value final, returned value final → post (.returned value) final) :
    Ensures env post (program.handle handler) state := by
  refine ensures_handle.mpr (h.mono fun outcome final hpost => ?_)
  cases outcome with
  | interrupted => exact hinterrupted final hpost
  | raised error => exact hraised error final hpost
  | returned value => exact hreturned value final hpost

/-- A result that is there already ensures what holds of its value or its error. -/
theorem ensures_of_except {result : Except ε α} :
    Ensures env post (ofExcept result : Program ω ρ ε α) state ↔
      post .interrupted state ∧ (∀ value, result = .ok value → post (.returned value) state) ∧
        (∀ error, result = .error error → post (.raised error) state) := by
  cases result <;> simp [ofExcept, Ensures]

theorem ensures_perform (op : ω) {post : Outcome ε (ρ op) → σ → Prop} :
    Ensures env post (perform op) state ↔
      post .interrupted state ∧ ∀ reply following, env state op reply following →
        post .interrupted following ∧ post (.returned reply) following :=
  Iff.rfl

theorem ensures_raise_if {condition : Prop} [Decidable condition] {error : ε}
    {post : Outcome ε Unit → σ → Prop} :
    Ensures env post (raiseIf condition error) state ↔
      post .interrupted state ∧ (condition → post (.raised error) state) ∧
        (¬ condition → post (.returned ()) state) := by
  unfold raiseIf
  split
  · next h => simp [ensures_raise, h]
  · next h =>
      show _ ∧ _ ↔ _
      simp [h]

/-! ## Environments that compute -/

/-- The environment of a server: the reply is a function of the state. -/
def served (serve : σ → (op : ω) → ρ op × σ) (state : σ) (op : ω) (reply : ρ op) (following : σ) :
    Prop :=
  serve state op = (reply, following)

/-- The whole run of a program against a server: its result and the state that it leaves. -/
def run (serve : σ → (op : ω) → ρ op × σ) : Program ω ρ ε α → σ → Except ε α × σ
  | .done value, state => (.ok value, state)
  | .raise error, state => (.error error, state)
  | .issue op next, state => run serve (next (serve state op).1) (serve state op).2

/-- The state after this many operations at most. -/
def stopAfter (serve : σ → (op : ω) → ρ op × σ) : Nat → Program ω ρ ε α → σ → σ
  | 0, _, state => state
  | _ + 1, .done _, state => state
  | _ + 1, .raise _, state => state
  | count + 1, .issue op next, state =>
      stopAfter serve count (next (serve state op).1) (serve state op).2

/-- The outcome of a whole run, which returns or raises and is never cut off. -/
def outcomeOf : Except ε α → Outcome ε α
  | .ok value => .returned value
  | .error error => .raised error

variable {serve : σ → (op : ω) → ρ op × σ}

/-- A whole run of two parts is the run of the first and, unless it raises, of the second. -/
theorem run_bind (program : Program ω ρ ε α) (rest : α → Program ω ρ ε β) (state : σ) :
    run serve (program >>= rest) state =
      match run serve program state with
      | (.ok value, after) => run serve (rest value) after
      | (.error error, after) => (.error error, after) := by
  show run serve (program.bind rest) state = _
  induction program generalizing state with
  | done value => rfl
  | raise error => rfl
  | issue op next ih => exact ih _ _

/-- Behind a first part that returns, the whole run goes on with the second. -/
theorem run_bind_ok {program : Program ω ρ ε α} {rest : α → Program ω ρ ε β} {value : α}
    {after : σ} (h : run serve program state = (.ok value, after)) :
    run serve (program >>= rest) state = run serve (rest value) after := by
  rw [run_bind, h]

/-- A program that can raise no error returns a value. -/
theorem run_returns (serve : σ → (op : ω) → ρ op × σ) (program : Program ω ρ Empty α)
    (state : σ) :
    ∃ value, run serve program state = (.ok value, (run serve program state).2) := by
  cases h : (run serve program state).1 with
  | ok value => exact ⟨value, Prod.ext h rfl⟩
  | error error => exact error.elim

/-- Every operation that the program may issue is allowed. -/
def Issues (allowed : ω → Prop) : Program ω ρ ε α → Prop
  | .done _ => True
  | .raise _ => True
  | .issue op next => allowed op ∧ ∀ reply, Issues allowed (next reply)

theorem Issues.bind {allowed : ω → Prop} {rest : α → Program ω ρ ε β}
    (h : Issues allowed program) (hrest : ∀ value, Issues allowed (rest value)) :
    Issues allowed (program >>= rest) := by
  show Issues allowed (program.bind rest)
  induction program with
  | done value => exact hrest value
  | raise error => trivial
  | issue op next ih => exact ⟨h.1, fun reply => ih reply (h.2 reply)⟩

theorem issues_pure {allowed : ω → Prop} (value : α) :
    Issues allowed (pure value : Program ω ρ ε α) :=
  trivial

/-- A program issues only allowed operations when its first and those behind it are allowed. -/
theorem issues_perform_bind {allowed : ω → Prop} {op : ω} {rest : ρ op → Program ω ρ ε β}
    (h : allowed op) (hrest : ∀ reply, Issues allowed (rest reply)) :
    Issues allowed (perform op >>= rest) :=
  ⟨h, hrest⟩

/-- A program that only works on a part of the state runs as it does on this part alone. -/
theorem run_part {τ : Type} {serve : τ → (op : ω) → ρ op × τ} {serve' : σ → (op : ω) → ρ op × σ}
    {allowed : ω → Prop} {get : τ → σ} (put : τ → σ → τ)
    (hget : ∀ whole part, get (put whole part) = part)
    (hput : ∀ whole part part', put (put whole part) part' = put whole part')
    (hself : ∀ whole, put whole (get whole) = whole)
    (hserve : ∀ whole op, allowed op →
      serve whole op = ((serve' (get whole) op).1, put whole (serve' (get whole) op).2))
    {program : Program ω ρ ε α} (h : Issues allowed program) (whole : τ) :
    run serve program whole =
      ((run serve' program (get whole)).1, put whole (run serve' program (get whole)).2) := by
  induction program generalizing whole with
  | done value => exact Prod.ext rfl (hself whole).symm
  | raise error => exact Prod.ext rfl (hself whole).symm
  | issue op next ih =>
      show run serve (next (serve whole op).1) (serve whole op).2 = _
      rw [hserve whole op h.1, ih _ (h.2 _), hget, hput]
      rfl

/-- Against a server, one operation ensures what the server's answer shows. -/
theorem ensures_perform_served (op : ω) {post : Outcome ε (ρ op) → σ → Prop} :
    Ensures (served serve) post (perform op) state ↔
      post .interrupted state ∧ post .interrupted (serve state op).2 ∧
        post (.returned (serve state op).1) (serve state op).2 := by
  rw [ensures_perform]
  constructor
  · intro h
    exact ⟨h.1, h.2 _ _ rfl⟩
  · rintro ⟨hstart, hreply⟩
    refine ⟨hstart, fun reply following h => ?_⟩
    obtain ⟨rfl, rfl⟩ := Prod.mk.inj h
    exact hreply

/-- The whole run against a server is a run in the environment of its answers. -/
theorem runs_run (serve : σ → (op : ω) → ρ op × σ) (program : Program ω ρ ε α) (state : σ) :
    Runs (served serve) program state (outcomeOf (run serve program state).1)
      (run serve program state).2 := by
  induction program generalizing state with
  | done value => exact .returned
  | raise error => exact .raised
  | issue op next ih => exact .issued rfl (ih _ _)

/-- A run against a server that is stopped after a number of operations is a run that is cut off. -/
theorem runs_stop_after (serve : σ → (op : ω) → ρ op × σ) (count : Nat)
    (program : Program ω ρ ε α) (state : σ) :
    Runs (served serve) program state .interrupted (stopAfter serve count program state) := by
  induction count generalizing program state with
  | zero => exact .interrupted
  | succ count ih =>
      cases program with
      | done value => exact .interrupted
      | raise error => exact .interrupted
      | issue op next => exact .issued rfl (ih _ _)

/-! ## Recorded runs -/

/-- An operation that was issued, with the reply that it got. -/
structure Event (ω : Type) (ρ : ω → Type) where
  op : ω
  reply : ρ op

/-- The environment that may reply anything; its state is what was issued so far. -/
def anyReply (trace : List (Event ω ρ)) (op : ω) (reply : ρ op) (following : List (Event ω ρ)) :
    Prop :=
  following = trace ++ [⟨op, reply⟩]

variable {trace : List (Event ω ρ)}

/-- One recorded operation before the rest of a program. -/
theorem ensures_any_reply {op : ω} {rest : ρ op → Program ω ρ ε α}
    {post : Outcome ε α → List (Event ω ρ) → Prop} (hstart : post .interrupted trace)
    (hrest : ∀ reply, Ensures anyReply post (rest reply) (trace ++ [⟨op, reply⟩])) :
    Ensures anyReply post (perform op >>= rest) trace := by
  refine ensures_bind.mpr ((ensures_perform op).mpr ⟨hstart, ?_⟩)
  rintro reply _ rfl
  exact ⟨(hrest reply).start, hrest reply⟩

/-- Every operation is allowed by what came before it. -/
def Allowed (allows : List (Event ω ρ) → ω → Prop) (trace : List (Event ω ρ)) : Prop :=
  ∀ before event after, trace = before ++ event :: after → allows before event.op

variable {allows : List (Event ω ρ) → ω → Prop}

theorem allowed_nil : Allowed allows ([] : List (Event ω ρ)) :=
  fun before event after hsplit => absurd hsplit.symm (by simp)

/-- A trace of allowed operations goes on with one that is allowed behind it. -/
theorem Allowed.snoc (h : Allowed allows trace) {op : ω} (hop : allows trace op) (reply : ρ op) :
    Allowed allows (trace ++ [⟨op, reply⟩]) := by
  intro before event after hsplit
  rcases List.eq_nil_or_concat after with rfl | ⟨rest, last, rfl⟩
  · obtain ⟨rfl, hlast⟩ := List.append_inj' hsplit rfl
    rw [← List.head_eq_of_cons_eq hlast]
    exact hop
  · rw [List.concat_eq_append, ← List.cons_append, ← List.append_assoc] at hsplit
    exact h before event rest (List.append_inj' hsplit rfl).1

/-- Operations that are allowed under one rule are allowed under every laxer rule. -/
theorem Allowed.mono {allows' : List (Event ω ρ) → ω → Prop} (h : Allowed allows trace)
    (himp : ∀ before op, allows before op → allows' before op) : Allowed allows' trace :=
  fun before event after hsplit => himp _ _ (h before event after hsplit)

theorem Allowed.init {event : Event ω ρ} (h : Allowed allows (trace ++ [event])) :
    Allowed allows trace := by
  intro before other after hsplit
  refine h before other (after ++ [event]) ?_
  rw [hsplit, List.append_assoc, List.cons_append]

/-- An invariant that no further operation breaks holds to the end of every run. -/
theorem Ensures.closed {inv : List (Event ω ρ) → Prop}
    {post : Outcome ε α → List (Event ω ρ) → Prop} (h : Ensures anyReply post program trace)
    (hinv : inv trace) (hsnoc : ∀ trace event, inv trace → inv (trace ++ [event])) :
    Ensures anyReply (fun outcome final => post outcome final ∧ inv final) program trace := by
  induction program generalizing trace with
  | done value => exact ⟨⟨h.1, hinv⟩, h.2, hinv⟩
  | raise error => exact ⟨⟨h.1, hinv⟩, h.2, hinv⟩
  | issue op next ih =>
      refine ⟨⟨h.1, hinv⟩, ?_⟩
      rintro reply _ rfl
      exact ih reply (h.2 reply _ rfl) (hsnoc trace _ hinv)

/-- The operations of a whole run against a server, with their replies. -/
def issued (serve : σ → (op : ω) → ρ op × σ) : Program ω ρ ε α → σ → List (Event ω ρ)
  | .done _, _ => []
  | .raise _, _ => []
  | .issue op next, state =>
      ⟨op, (serve state op).1⟩ :: issued serve (next (serve state op).1) (serve state op).2

/-- A run against a server, in an environment that records it. -/
theorem runs_issued {env : List (Event ω ρ) → (op : ω) → ρ op → List (Event ω ρ) → Prop}
    (serve : σ → (op : ω) → ρ op × σ)
    (henv : ∀ trace state op, env trace op (serve state op).1
      (trace ++ [⟨op, (serve state op).1⟩]))
    (program : Program ω ρ ε α) (state : σ) (trace : List (Event ω ρ)) :
    Runs env program trace (outcomeOf (run serve program state).1)
      (trace ++ issued serve program state) := by
  induction program generalizing state trace with
  | done value =>
      rw [issued, List.append_nil]
      exact .returned
  | raise error =>
      rw [issued, List.append_nil]
      exact .raised
  | issue op next ih =>
      have hrest := ih (serve state op).1 (serve state op).2
        (trace ++ [⟨op, (serve state op).1⟩])
      rw [List.append_assoc] at hrest
      exact .issued (henv trace state op) hrest

-- From here on the condition is reached by its rules only: unfolding it would run the program.
attribute [irreducible] Ensures

end Program
