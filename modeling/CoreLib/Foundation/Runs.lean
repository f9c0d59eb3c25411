/-
Finite runs of a partial step function.

A system is given by what one action does to one state; an action that is not
enabled yields no state.  Environment choices (results of calls, the thread that
moves next) are part of the action, so a list of actions is a whole schedule.
This file names no particular system.  It provides the induction rules by which
facts about one step become facts about every run, the rule for runs whose
steps all satisfy a guard, and forward simulation between two systems.
-/

import Mathlib

set_option autoImplicit false

namespace CoreLib.Foundation

universe u v w z

variable {State : Type u} {Action : Type v}

/-- Perform the actions in order.  The result is absent as soon as one of them
is not enabled. -/
def run (step : State → Action → Option State) : State → List Action → Option State
  | state, [] => some state
  | state, action :: rest => (step state action).bind fun next => run step next rest

@[simp] theorem run_nil (step : State → Action → Option State) (state : State) :
    run step state [] = some state := rfl

theorem run_cons (step : State → Action → Option State) (state : State)
    (action : Action) (rest : List Action) :
    run step state (action :: rest) = (step state action).bind fun next => run step next rest :=
  rfl

theorem run_cons_some {step : State → Action → Option State} {state final : State}
    {action : Action} {rest : List Action}
    (performed : run step state (action :: rest) = some final) :
    ∃ next, step state action = some next ∧ run step next rest = some final := by
  rw [run_cons] at performed
  exact Option.bind_eq_some_iff.mp performed

theorem run_one {step : State → Action → Option State} {state next : State} {action : Action}
    (enabled : step state action = some next) : run step state [action] = some next := by
  rw [run_cons, enabled]
  rfl

theorem run_append (step : State → Action → Option State) (state : State)
    (first second : List Action) :
    run step state (first ++ second) =
      (run step state first).bind fun middle => run step middle second := by
  induction first generalizing state with
  | nil => rfl
  | cons action rest ih =>
      rw [List.cons_append, run_cons, run_cons]
      cases step state action with
      | none => rfl
      | some next => exact ih next

theorem run_trans {step : State → Action → Option State} {state middle final : State}
    {first second : List Action} (before : run step state first = some middle)
    (after : run step middle second = some final) :
    run step state (first ++ second) = some final := by
  rw [run_append, before]
  exact after

/-- Every step that the run takes starts in a state where `guard` allows it. -/
def Respects (step : State → Action → Option State) (guard : State → Action → Prop) :
    State → List Action → Prop
  | _, [] => True
  | state, action :: rest => ∀ next, step state action = some next →
      guard state action ∧ Respects step guard next rest

/-- `holds` is true of every state that the run visits, the first one included. -/
def Always (step : State → Action → Option State) (holds : State → Prop) :
    State → List Action → Prop
  | state, [] => holds state
  | state, action :: rest => holds state ∧
      ∀ next, step state action = some next → Always step holds next rest

section Rules

variable {step : State → Action → Option State} {guard : State → Action → Prop}
  {invariant holds : State → Prop}

theorem Always.start {state : State} {actions : List Action}
    (always : Always step holds state actions) : holds state := by
  cases actions with
  | nil => exact always
  | cons action rest => exact always.1

theorem Always.mono {weaker : State → Prop} (implied : ∀ state, holds state → weaker state)
    {state : State} {actions : List Action} (always : Always step holds state actions) :
    Always step weaker state actions := by
  induction actions generalizing state with
  | nil => exact implied state always
  | cons action rest ih =>
      exact ⟨implied state always.1, fun next enabled => ih (always.2 next enabled)⟩

theorem Always.final {state final : State} {actions : List Action}
    (always : Always step holds state actions) (performed : run step state actions = some final) :
    holds final := by
  induction actions generalizing state with
  | nil =>
      cases performed
      exact always
  | cons action rest ih =>
      obtain ⟨next, enabled, remaining⟩ := run_cons_some performed
      exact ih (always.2 next enabled) remaining

theorem Respects.of_forall {state : State} {actions : List Action}
    (allowed : ∀ state, ∀ action ∈ actions, guard state action) :
    Respects step guard state actions := by
  induction actions generalizing state with
  | nil => exact trivial
  | cons action rest ih =>
      intro next enabled
      exact ⟨allowed state action (List.mem_cons_self ..),
        ih fun other later member => allowed other later (List.mem_cons_of_mem _ member)⟩

theorem Respects.and {other : State → Action → Prop} {state : State} {actions : List Action}
    (left : Respects step guard state actions) (right : Respects step other state actions) :
    Respects step (fun current action => guard current action ∧ other current action)
      state actions := by
  induction actions generalizing state with
  | nil => exact trivial
  | cons action rest ih =>
      intro next enabled
      obtain ⟨leftHere, leftRest⟩ := left next enabled
      obtain ⟨rightHere, rightRest⟩ := right next enabled
      exact ⟨⟨leftHere, rightHere⟩, ih leftRest rightRest⟩

theorem Respects.append {state : State} {first second : List Action}
    (before : Respects step guard state first)
    (after : ∀ middle, run step state first = some middle → Respects step guard middle second) :
    Respects step guard state (first ++ second) := by
  induction first generalizing state with
  | nil => exact after state rfl
  | cons action rest ih =>
      intro next enabled
      obtain ⟨here, later⟩ := before next enabled
      refine ⟨here, ih later fun middle performed => after middle ?_⟩
      rw [run_cons, enabled]
      exact performed

/-- What every allowed step preserves holds in every state of an allowed run. -/
theorem always_of_preserved
    (preserved : ∀ state action next, invariant state → guard state action →
      step state action = some next → invariant next)
    {state : State} {actions : List Action} (start : invariant state)
    (allowed : Respects step guard state actions) : Always step invariant state actions := by
  induction actions generalizing state with
  | nil => exact start
  | cons action rest ih =>
      refine ⟨start, fun next enabled => ?_⟩
      obtain ⟨here, later⟩ := allowed next enabled
      exact ih (preserved state action next start here enabled) later

/-- The unguarded form: what every step preserves holds at the end of every run. -/
theorem run_preserves
    (preserved : ∀ state action next, invariant state →
      step state action = some next → invariant next)
    {state final : State} {actions : List Action} (start : invariant state)
    (performed : run step state actions = some final) : invariant final := by
  induction actions generalizing state with
  | nil =>
      cases performed
      exact start
  | cons action rest ih =>
      obtain ⟨next, enabled, remaining⟩ := run_cons_some performed
      exact ih (preserved state action next start enabled) remaining

/-- Until it has exited, a run spends no more weight than its rank allows. -/
theorem run_until (inside exited : State → Prop) (weight : Action → Nat) (rank : State → Nat)
    (advance : ∀ state action next, inside state → step state action = some next →
      (inside next ∧ weight action + rank next ≤ rank state) ∨ exited next)
    (stays : ∀ state action next, exited state → step state action = some next → exited next)
    {state final : State} {actions : List Action} (start : inside state)
    (performed : run step state actions = some final) :
    (inside final ∧ (actions.map weight).sum + rank final ≤ rank state) ∨ exited final := by
  induction actions generalizing state with
  | nil =>
      cases performed
      exact Or.inl ⟨start, Nat.le_of_eq (Nat.zero_add _)⟩
  | cons action rest ih =>
      obtain ⟨next, enabled, remaining⟩ := run_cons_some performed
      rcases advance state action next start enabled with ⟨still, spent⟩ | left
      · rcases ih still remaining with ⟨last, total⟩ | left
        · refine Or.inl ⟨last, ?_⟩
          rw [List.map_cons, List.sum_cons]
          omega
        · exact Or.inr left
      · exact Or.inr (run_preserves stays left remaining)

theorem Respects.of_always (implied : ∀ state action, holds state → guard state action)
    {state : State} {actions : List Action} (always : Always step holds state actions) :
    Respects step guard state actions := by
  induction actions generalizing state with
  | nil => exact trivial
  | cons action rest ih =>
      intro next enabled
      exact ⟨implied state action always.1, ih (always.2 next enabled)⟩

/-- Two guards that agree on every step from a state with the invariant allow the same
runs. -/
theorem respects_congr {other : State → Action → Prop}
    (preserved : ∀ state action next, invariant state → step state action = some next →
      invariant next)
    (agree : ∀ state action next, invariant state → step state action = some next →
      (guard state action ↔ other state action))
    {state : State} {actions : List Action} (start : invariant state) :
    Respects step guard state actions ↔ Respects step other state actions := by
  induction actions generalizing state with
  | nil => exact Iff.rfl
  | cons action rest ih =>
      constructor
      · intro allowed next enabled
        obtain ⟨here, later⟩ := allowed next enabled
        exact ⟨(agree state action next start enabled).mp here,
          (ih (preserved state action next start enabled)).mp later⟩
      · intro allowed next enabled
        obtain ⟨here, later⟩ := allowed next enabled
        exact ⟨(agree state action next start enabled).mpr here,
          (ih (preserved state action next start enabled)).mpr later⟩

/-- Within a domain of actions, a guard is exact when the invariant survives the
steps it allows and the property fails after each step that it forbids. -/
theorem always_iff_respects (domain : Action → Prop) (invariant : State → Prop)
    (preserved : ∀ state action next, invariant state → domain action → guard state action →
      step state action = some next → invariant next)
    (sound : ∀ state, invariant state → holds state)
    (exact_guard : ∀ state action next, invariant state → ¬ guard state action →
      step state action = some next → ¬ holds next)
    {state : State} {actions : List Action} (start : invariant state)
    (within : ∀ action ∈ actions, domain action) :
    Always step holds state actions ↔ Respects step guard state actions := by
  constructor
  · intro always
    induction actions generalizing state with
    | nil => exact trivial
    | cons action rest ih =>
        have inside := within action (List.mem_cons_self ..)
        have others : ∀ other ∈ rest, domain other :=
          fun other member => within other (List.mem_cons_of_mem _ member)
        intro next enabled
        have later := always.2 next enabled
        have here : guard state action := by
          apply Classical.byContradiction
          intro forbidden
          exact exact_guard state action next start forbidden enabled later.start
        exact ⟨here, ih (preserved state action next start inside here enabled) others later⟩
  · intro allowed
    have both := allowed.and (Respects.of_forall fun _ => within)
    exact (always_of_preserved
      (fun current action next held permitted enabled =>
        preserved current action next held permitted.2 permitted.1 enabled)
      start both).mono sound

end Rules

section Simulation

variable {Spec : Type w} {Label : Type z} {step : State → Action → Option State}
  {specStep : Spec → Label → Option Spec} {relates : State → Spec → Prop}
  {guard : State → Action → Prop}

/-- Forward simulation: if every allowed step is matched by finitely many
specification steps, so is every allowed run. -/
theorem run_simulates
    (matched : ∀ state action next spec, relates state spec → guard state action →
      step state action = some next →
      ∃ labels specNext, run specStep spec labels = some specNext ∧ relates next specNext)
    {state final : State} {spec : Spec} {actions : List Action} (start : relates state spec)
    (allowed : Respects step guard state actions)
    (performed : run step state actions = some final) :
    ∃ labels specFinal, run specStep spec labels = some specFinal ∧ relates final specFinal := by
  induction actions generalizing state spec with
  | nil =>
      cases performed
      exact ⟨[], spec, rfl, start⟩
  | cons action rest ih =>
      obtain ⟨next, enabled, remaining⟩ := run_cons_some performed
      obtain ⟨here, later⟩ := allowed next enabled
      obtain ⟨labels, specNext, specRun, related⟩ :=
        matched state action next spec start here enabled
      obtain ⟨more, specFinal, moreRun, relatedFinal⟩ := ih related later remaining
      exact ⟨labels ++ more, specFinal, run_trans specRun moreRun, relatedFinal⟩

end Simulation

end CoreLib.Foundation
