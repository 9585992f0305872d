import NvidiaConverge.Library.Embed

/-!
# Monitors of recorded runs

A monitor folds a recorded run to what it has shown so far and says which operations this allows.
`Stage` is the triple of a part of a program under a monitor: from a condition on what was shown,
every run of the part keeps to what is allowed, and returns with another condition. `Stage.allowed`
reads the result off a whole run; the rules build the stage of a program from those of its parts.
`Sound.at_event` takes a run into a world: where each allowed step keeps what the monitor has shown
true of the world, it was true of it whenever something was issued.
-/

namespace Program

variable {ω : Type} {ρ : ω → Type} {π ε α β : Type}

/-- What a run shows, event by event, and which operations this allows. -/
structure Monitor (ω : Type) (ρ : ω → Type) (π : Type) where
  start : π
  after : π → Event ω ρ → π
  allows : π → ω → Prop

namespace Monitor

variable (m : Monitor ω ρ π)

/-- What a run has shown: the start of the monitor, taken through the events of the trace. -/
def progress (trace : List (Event ω ρ)) : π :=
  trace.foldl m.after m.start

theorem progress_snoc (trace : List (Event ω ρ)) (event : Event ω ρ) :
    m.progress (trace ++ [event]) = m.after (m.progress trace) event := by
  rw [progress, List.foldl_append]
  rfl

/-- Every operation was allowed where it was issued. -/
def Safe : List (Event ω ρ) → Prop :=
  Allowed fun before => m.allows (m.progress before)

/-- A run that kept to what is allowed and has shown this. -/
def At (shown : π → Prop) (trace : List (Event ω ρ)) : Prop :=
  m.Safe trace ∧ shown (m.progress trace)

/-- A part of a program under the monitor; `fail` is what an error leaves. -/
def Stage (fail pre : π → Prop) (program : Program ω ρ ε α) (post : α → π → Prop) : Prop :=
  Triple anyReply (m.At pre) program (fun value => m.At (post value)) (m.At fail) m.Safe

variable {m} {fail pre pre' : π → Prop} {post post' : α → π → Prop} {program : Program ω ρ ε α}

/-- A trace that has come to one fact about the progress has come to every weaker one. -/
theorem At.mono {shown shown' : π → Prop} {trace : List (Event ω ρ)} (h : m.At shown trace)
    (himp : ∀ p, shown p → shown' p) : m.At shown' trace :=
  ⟨h.1, himp _ h.2⟩

/-- A trace goes on with an operation that its progress allows, and shows its reply. -/
theorem At.snoc {trace : List (Event ω ρ)} (h : m.At pre trace) {op : ω}
    (hop : ∀ p, pre p → m.allows p op) (reply : ρ op) {shown : π → Prop}
    (hshown : ∀ p, pre p → shown (m.after p ⟨op, reply⟩)) :
    m.At shown (trace ++ [⟨op, reply⟩]) := by
  refine ⟨h.1.snoc (hop _ h.2) reply, ?_⟩
  rw [progress_snoc]
  exact hshown _ h.2

/-- A whole run keeps to what is allowed, and what it has shown when it returns. -/
theorem Stage.allowed (h : m.Stage fail pre program post) (hstart : pre m.start)
    {outcome : Outcome ε α} {trace : List (Event ω ρ)}
    (hruns : Runs anyReply program [] outcome trace) :
    m.Safe trace ∧ ∀ value, outcome = .returned value → post value (m.progress trace) := by
  have hends := (h [] ⟨allowed_nil, hstart⟩).runs hruns
  cases outcome with
  | interrupted => exact ⟨hends, fun _ h => by cases h⟩
  | raised error => exact ⟨hends.1, fun _ h => by cases h⟩
  | returned value =>
      refine ⟨hends.1, fun other hother => ?_⟩
      cases hother
      exact hends.2

/-- A part that returns at once is a stage, when what held before it holds behind it. -/
theorem stage_return {value : α} (h : ∀ p, pre p → post value p) :
    m.Stage fail pre (pure value : Program ω ρ ε α) post :=
  triple_pure (fun _ hat => hat.mono h) fun _ hat => hat.1

/-- A part that raises at once is a stage, when what held before it may hold behind an error. -/
theorem stage_error {error : ε} (h : ∀ p, pre p → fail p) :
    m.Stage fail pre (.raise error : Program ω ρ ε α) post :=
  triple_raise (fun _ hat => hat.mono h) fun _ hat => hat.1

theorem Stage.bind {rest : α → Program ω ρ ε β} {after : β → π → Prop}
    (h : m.Stage fail pre program post)
    (hrest : ∀ value, m.Stage fail (post value) (rest value) after) :
    m.Stage fail pre (program >>= rest) after :=
  Triple.bind h hrest

/-- A stage remains one under a stronger condition before it and weaker ones behind it. -/
theorem Stage.mono {fail' : π → Prop} (h : m.Stage fail pre program post)
    (hfail : ∀ p, fail p → fail' p) (hpre : ∀ p, pre' p → pre p)
    (hpost : ∀ value p, post value p → post' value p) : m.Stage fail' pre' program post' :=
  Triple.mono h (fun _ hat => hat.mono hpre) (fun value _ hat => hat.mono (hpost value))
    (fun _ hat => hat.mono hfail) fun _ hsafe => hsafe

/-- Where a part starts and what it returns with, for the same errors. -/
theorem Stage.consequence (h : m.Stage fail pre program post) (hpre : ∀ p, pre' p → pre p)
    (hpost : ∀ value p, post value p → post' value p) : m.Stage fail pre' program post' :=
  h.mono (fun _ hfail => hfail) hpre hpost

/-- A part that needs a fact about its start that is no condition on the run. -/
theorem stage_given {fact : Prop} (hfact : ∀ p, pre p → fact)
    (h : fact → m.Stage fail pre program post) : m.Stage fail pre program post :=
  fun trace hat => h (hfact _ hat.2) trace hat

/-- One operation, and what follows each of its replies. -/
theorem stage_operation {op : ω} {next : ρ op → Program ω ρ ε α} {shown : ρ op → π → Prop}
    (hop : ∀ p, pre p → m.allows p op)
    (hshown : ∀ p reply, pre p → shown reply (m.after p ⟨op, reply⟩))
    (hnext : ∀ reply, m.Stage fail (shown reply) (next reply) post) :
    m.Stage fail pre (.issue op next) post := by
  intro trace hat
  rw [Ensures]
  refine ⟨hat.1, ?_⟩
  rintro reply _ rfl
  exact hnext reply _ (hat.snoc hop reply fun p hpre => hshown p reply hpre)

/-- A stage whose errors are handled by stages is a stage. -/
theorem Stage.handle {ε' : Type} {handler : ε → Program ω ρ ε' α} {caught : π → Prop}
    (h : m.Stage caught pre program post)
    (hhandler : ∀ error, m.Stage fail caught (handler error) post) :
    m.Stage fail pre (program.handle handler) post :=
  fun trace hat => (h trace hat).handle (fun _ hsafe => hsafe)
    (fun error final hcaught => hhandler error final hcaught) fun _ _ hpost => hpost

end Monitor

/-! ## Monitored worlds -/

/-- What was issued, each operation with the world in which it was. -/
abbrev History (ω : Type) (ρ : ω → Type) (World : Type) :=
  List (World × Event ω ρ)

namespace History

variable {World : Type}

/-- The operations of a history with their replies, without the worlds. -/
def events (history : History ω ρ World) : List (Event ω ρ) :=
  history.map Prod.snd

@[simp] theorem events_append (history more : History ω ρ World) :
    events (history ++ more) = events history ++ events more :=
  List.map_append

/-- One operation that a world answers, with the record of the world before it. -/
def step (env : World → (op : ω) → ρ op → World → Prop) (state : History ω ρ World × World) (op : ω)
    (reply : ρ op) (following : History ω ρ World × World) : Prop :=
  following.1 = state.1 ++ [(state.2, ⟨op, reply⟩)] ∧ env state.2 op reply following.2

/-- A server that also records, for each operation, the world that answered it. -/
def serve (server : World → (op : ω) → ρ op × World) (state : History ω ρ World × World) (op : ω) :
    ρ op × (History ω ρ World × World) :=
  let answer := server state.2 op
  (answer.1, state.1 ++ [(state.2, ⟨op, answer.1⟩)], answer.2)

variable {env : World → (op : ω) → ρ op → World → Prop} {program : Program ω ρ ε α}
  {outcome : Outcome ε α} {world final : World} {history : History ω ρ World}

/-- The operations of a run in a world are those of a run among arbitrary answers. -/
theorem recorded (h : Runs (step env) program ([], world) outcome (history, final)) :
    Runs anyReply program [] outcome (events history) := by
  refine h.along (fun state => events state.1) ?_
  rintro ⟨earlier, _⟩ op reply ⟨_, _⟩ ⟨rfl, -⟩
  exact events_append _ _

/-- A whole run against a recording server is a run that records its worlds. -/
theorem runs_serve (server : World → (op : ω) → ρ op × World) (program : Program ω ρ ε α)
    (world : World) :
    Runs (step (served server)) program ([], world)
      (outcomeOf (run (serve server) program ([], world)).1)
      (run (serve server) program ([], world)).2 := by
  refine (runs_run (serve server) program ([], world)).mono ?_
  intro state op reply following hserved
  obtain ⟨rfl, rfl⟩ := Prod.mk.inj hserved
  exact ⟨rfl, rfl⟩

end History

namespace Monitor

variable {World : Type} {m : Monitor ω ρ π} {env : World → (op : ω) → ρ op → World → Prop}
  {holds : π → World → Prop}

/-- Every allowed step keeps what was shown true of the world. -/
def Sound (m : Monitor ω ρ π) (env : World → (op : ω) → ρ op → World → Prop)
    (holds : π → World → Prop) : Prop :=
  ∀ p world op reply following, holds p world → m.allows p op → env world op reply following →
    holds (m.after p ⟨op, reply⟩) following

/-- What was shown is true of the world, now and whenever something was issued. -/
structure Tracks (m : Monitor ω ρ π) (holds : π → World → Prop)
    (state : History ω ρ World × World) :
    Prop where
  now : m.Safe state.1.events → holds (m.progress state.1.events) state.2
  earlier : ∀ (before : History ω ρ World) world event after,
    state.1 = before ++ (world, event) :: after → m.Safe before.events →
      holds (m.progress before.events) world

/-- The world keeps to what its history has shown, one operation after the other. -/
theorem tracks_step {state following : History ω ρ World × World} {op : ω} {reply : ρ op}
    (hsound : m.Sound env holds) (h : m.Tracks holds state)
    (hstep : History.step env state op reply following) : m.Tracks holds following := by
  obtain ⟨history, world⟩ := state
  obtain ⟨_, after⟩ := following
  obtain ⟨rfl, henv⟩ := hstep
  refine ⟨fun hsafe => ?_, fun before earlier event rest hsplit hsafe => ?_⟩
  · rw [History.events_append] at hsafe ⊢
    have hallowed : m.allows (m.progress history.events) op := hsafe history.events _ [] rfl
    show holds (m.progress (history.events ++ [⟨op, reply⟩])) after
    rw [progress_snoc]
    exact hsound _ world op reply after (h.now hsafe.init) hallowed henv
  · rcases List.eq_nil_or_concat rest with rfl | ⟨front, last, rfl⟩
    · obtain ⟨rfl, hlast⟩ := List.append_inj' hsplit rfl
      obtain ⟨rfl, -⟩ := Prod.mk.inj (List.head_eq_of_cons_eq hlast)
      exact h.now hsafe
    · rw [List.concat_eq_append, ← List.cons_append, ← List.append_assoc] at hsplit
      exact h.earlier before earlier event front (List.append_inj' hsplit rfl).1 hsafe

/-- In a run that kept to what is allowed, each operation was allowed by what was shown before it,
which was true of the world at that moment. -/
theorem Sound.at_event {program : Program ω ρ ε α} {outcome : Outcome ε α} {world final : World}
    {history : History ω ρ World} (hsound : m.Sound env holds) (hstart : holds m.start world)
    (hruns : Runs (History.step env) program ([], world) outcome (history, final))
    (hsafe : m.Safe history.events) {before after : History ω ρ World} {current : World}
    {event : Event ω ρ} (hsplit : history = before ++ (current, event) :: after) :
    holds (m.progress before.events) current ∧ m.allows (m.progress before.events) event.op := by
  have hempty : m.Tracks holds (([] : History ω ρ World), world) :=
    ⟨fun _ => hstart, fun before _ _ _ h => by simp at h⟩
  have htracks := hruns.keeps (fun _ _ _ _ h hstep => tracks_step hsound h hstep) hempty
  have hevents : history.events = before.events ++ event :: after.events := by
    rw [hsplit]
    exact List.map_append
  have hbefore : m.Safe before.events := by
    intro front other back hfront
    refine hsafe front other (back ++ event :: after.events) ?_
    rw [hevents, hfront, List.append_assoc, List.cons_append]
  exact ⟨htracks.earlier before current event after hsplit hbefore,
    hsafe before.events event after.events hevents⟩

end Monitor

/-! ## Every operation of a program -/

/-- A program that issues only some operations issues only operations of a larger kind. -/
theorem Issues.mono {allowed allowed' : ω → Prop} {program : Program ω ρ ε α}
    (h : Issues allowed program) (himp : ∀ op, allowed op → allowed' op) :
    Issues allowed' program := by
  induction program with
  | done value => trivial
  | raise error => trivial
  | issue op next ih => exact ⟨himp op h.1, fun reply => ih reply (h.2 reply)⟩

/-- Every operation is allowed, and a missing reply ends the program with an error. -/
def Attempts {answer : ω → Type} (allowed : ω → Prop) :
    Program ω (fun op => Option (answer op)) ε α → Prop
  | .done _ => True
  | .raise _ => True
  | .issue op next =>
      allowed op ∧ (∃ error, next none = .raise error) ∧
        ∀ reply, Attempts allowed (next (some reply))

theorem attempts_pure {answer : ω → Type} {allowed : ω → Prop} (value : α) :
    Attempts allowed (pure value : Program ω (fun op => Option (answer op)) ε α) :=
  trivial

namespace Attempts

variable {answer : ω → Type} {allowed : ω → Prop}
  {attempted : Program ω (fun op => Option (answer op)) ε α}

theorem bind {rest : α → Program ω (fun op => Option (answer op)) ε β}
    (h : Attempts allowed attempted) (hrest : ∀ value, Attempts allowed (rest value)) :
    Attempts allowed (attempted >>= rest) := by
  show Attempts allowed (attempted.bind rest)
  induction attempted with
  | done value => exact hrest value
  | raise error => trivial
  | issue op next ih =>
      obtain ⟨hop, ⟨error, hmissing⟩, hnext⟩ := h
      refine ⟨hop, ⟨error, ?_⟩, fun reply => ih (some reply) (hnext reply)⟩
      show (next none).bind rest = _
      rw [hmissing]
      rfl

/-- A handler that raises again lets a missing reply end the program. -/
theorem handle {ε' : Type} {handler : ε → ε'} (h : Attempts allowed attempted) :
    Attempts allowed (attempted.handle fun error => .raise (handler error)) := by
  induction attempted with
  | done value => trivial
  | raise error => trivial
  | issue op next ih =>
      obtain ⟨hop, ⟨error, hmissing⟩, hnext⟩ := h
      refine ⟨hop, ⟨handler error, ?_⟩, fun reply => ih (some reply) (hnext reply)⟩
      show (next none).handle _ = _
      rw [hmissing]
      rfl

end Attempts

theorem issues_any (program : Program ω ρ ε α) : Issues (fun _ => True) program := by
  induction program with
  | done value => trivial
  | raise error => trivial
  | issue op next ih => exact ⟨trivial, ih⟩

theorem Issues.embed {ω' : Type} {ρ' : ω' → Type} {allowed : ω → Prop} {program : Program ω ρ ε α}
    (h : Issues allowed program) (whole : ω → ω') (read : (op : ω) → ρ' (whole op) → ρ op) :
    Issues (fun outer => ∃ op, allowed op ∧ whole op = outer) (program.embed whole read) := by
  induction program with
  | done value => trivial
  | raise error => trivial
  | issue op next ih => exact ⟨⟨op, h.1, rfl⟩, fun reply => ih _ (h.2 _)⟩

theorem Issues.handle {ε' : Type} {allowed : ω → Prop} {program : Program ω ρ ε α}
    {handler : ε → Program ω ρ ε' α} (h : Issues allowed program)
    (hhandler : ∀ error, Issues allowed (handler error)) :
    Issues allowed (program.handle handler) := by
  induction program with
  | done value => trivial
  | raise error => exact hhandler error
  | issue op next ih => exact ⟨h.1, fun reply => ih reply (h.2 reply)⟩

/-- What every run keeps to, whatever is replied, the program issues nothing else. -/
theorem issues_of_allowed [∀ op, Nonempty (ρ op)] {allowed : ω → Prop} {program : Program ω ρ ε α}
    {trace : List (Event ω ρ)}
    (h : Ensures anyReply (fun _ => Allowed fun _ op => allowed op) program trace) :
    Issues allowed program := by
  induction program generalizing trace with
  | done value => trivial
  | raise error => trivial
  | issue op next ih =>
      rw [Ensures] at h
      refine ⟨?_, fun reply => ih reply (h.2 reply _ rfl)⟩
      obtain ⟨reply⟩ := (inferInstance : Nonempty (ρ op))
      exact (h.2 reply _ rfl).start trace ⟨op, reply⟩ [] rfl

end Program
