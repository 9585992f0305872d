import Mathlib

/-!
# Runs of a step function

A machine is a partial step function over states and actions. `exec` runs a list of actions;
`Reachable` holds of the states of runs whose steps all meet a condition on the state and the
action, and `Reachable.invariant` is its induction principle for invariants.
-/

namespace Run

universe u v

variable {σ : Type u} {α : Type v}

/-- Execute the actions in order; an action that is not enabled stops the run. -/
def exec (step : σ → α → Option σ) : σ → List α → Option σ
  | state, [] => some state
  | state, action :: rest => step state action >>= fun following => exec step following rest

/-- The states of runs from `initial` whose steps all meet `allowed`. -/
inductive Reachable (step : σ → α → Option σ) (allowed : σ → α → Prop)
    (initial : σ) : σ → Prop where
  | start : Reachable step allowed initial initial
  | next {state following : σ} {action : α} (hreach : Reachable step allowed initial state)
      (hallowed : allowed state action) (hstep : step state action = some following) :
      Reachable step allowed initial following

variable {step : σ → α → Option σ} {allowed : σ → α → Prop} {initial state : σ}

/-- What the initial state has and every allowed step keeps, every reachable state has. -/
theorem Reachable.invariant {invariant : σ → Prop} (hreach : Reachable step allowed initial state)
    (hinitial : invariant initial)
    (hkeep : ∀ {state following action}, invariant state → allowed state action →
      step state action = some following → invariant following) :
    invariant state := by
  induction hreach with
  | start => exact hinitial
  | next _ hallowed hstep ih => exact hkeep ih hallowed hstep

/-- What is reached under a condition on the steps is reached under every weaker one. -/
theorem Reachable.weaken {weaker : σ → α → Prop} (hreach : Reachable step allowed initial state)
    (hweaker : ∀ {state action}, allowed state action → weaker state action) :
    Reachable step weaker initial state := by
  induction hreach with
  | start => exact .start
  | next _ hallowed hstep ih => exact .next ih (hweaker hallowed) hstep

/-- Executing from a reachable state reaches a state. -/
theorem Reachable.exec {actions : List α} {final : σ}
    (hreach : Reachable step (fun _ _ => True) initial state)
    (hexec : Run.exec step state actions = some final) :
    Reachable step (fun _ _ => True) initial final := by
  induction actions generalizing state with
  | nil =>
      obtain rfl := Option.some.inj hexec
      exact hreach
  | cons action rest ih =>
      obtain ⟨following, hstep, hrest⟩ := Option.bind_eq_some_iff.mp hexec
      exact ih (.next hreach trivial hstep) hrest

/-- A step function that also stops at an action that fails the check. -/
def checked (check : σ → α → Bool) (step : σ → α → Option σ) (state : σ) (action : α) :
    Option σ :=
  if check state action = true then step state action else none

/-- A checked run reaches a state under the check. -/
theorem Reachable.exec_checked {check : σ → α → Bool} {actions : List α} {final : σ}
    (hreach : Reachable step (fun state action => check state action = true) initial state)
    (hexec : Run.exec (checked check step) state actions = some final) :
    Reachable step (fun state action => check state action = true) initial final := by
  induction actions generalizing state with
  | nil =>
      obtain rfl := Option.some.inj hexec
      exact hreach
  | cons action rest ih =>
      obtain ⟨following, hstep, hrest⟩ := Option.bind_eq_some_iff.mp hexec
      unfold checked at hstep
      split at hstep
      · next hcheck => exact ih (.next hreach hcheck hstep) hrest
      · cases hstep

end Run
