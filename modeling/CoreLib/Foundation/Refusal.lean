/-
Runs in which the environment may refuse what an action asks for.

A system is given by its step function and by which steps ask for something.  An action that
asks and is refused ends the run in the state before it.  This file names no particular
system.
-/

import CoreLib.Foundation.Runs

set_option autoImplicit false

namespace CoreLib.Foundation

universe u v

variable {State : Type u} {Action : Type v}

/-- A state, and whether a refusal has ended the run in it. -/
structure Attempted (State : Type u) where
  state : State
  refused : Bool

def Attempted.begin (state : State) : Attempted State :=
  { state := state
    refused := false }

/-- An action, and whether it is refused if it asks. -/
def attempt (step : State → Action → Option State) (asks : State → State → Bool)
    (before : Attempted State) (call : Action × Bool) : Option (Attempted State) :=
  if before.refused then none
  else
    (step before.state call.1).map fun next =>
      if call.2 && asks before.state next then
        { state := before.state
          refused := true }
      else
        { state := next
          refused := false }

section Rules

variable {step : State → Action → Option State} {asks : State → State → Bool}
  {before final : Attempted State} {call : Action × Bool} {calls : List (Action × Bool)}

theorem attempt_cases (performed : attempt step asks before call = some final) :
    before.refused = false ∧ ∃ next, step before.state call.1 = some next ∧
      ((call.2 = true ∧ asks before.state next = true ∧ final = ⟨before.state, true⟩) ∨
        final = ⟨next, false⟩) := by
  obtain ⟨going, rest⟩ := Option.ite_none_left_eq_some.mp performed
  obtain ⟨next, enabled, same⟩ := Option.map_eq_some_iff.mp rest
  refine ⟨Bool.eq_false_of_not_eq_true going, next, enabled, ?_⟩
  by_cases denied : (call.2 && asks before.state next) = true
  · rw [if_pos denied] at same
    obtain ⟨refusal, asked⟩ := Bool.and_eq_true_iff.mp denied
    exact Or.inl ⟨refusal, asked, same.symm⟩
  · rw [if_neg denied] at same
    exact Or.inr same.symm

/-- What the system has done is a run of it. -/
theorem attempts_run (performed : run (attempt step asks) before calls = some final) :
    ∃ taken, taken <+: calls.map Prod.fst ∧ run step before.state taken = some final.state := by
  induction calls generalizing before with
  | nil =>
      cases performed
      exact ⟨[], List.nil_prefix, rfl⟩
  | cons call calls ih =>
      obtain ⟨middle, first, rest⟩ := run_cons_some performed
      obtain ⟨_, next, enabled, denied | granted⟩ := attempt_cases first
      · -- nothing follows a refusal
        obtain ⟨_, _, same⟩ := denied
        subst middle
        cases calls with
        | nil =>
            cases rest
            exact ⟨[], List.nil_prefix, rfl⟩
        | cons other others =>
            obtain ⟨_, second, _⟩ := run_cons_some rest
            have impossible := (attempt_cases second).1
            contradiction
      · subst middle
        obtain ⟨taken, begins, ran⟩ := ih rest
        refine ⟨call.1 :: taken, (List.prefix_cons_inj call.1).mpr begins, ?_⟩
        rw [run_cons, enabled]
        exact ran

/-- A run ends by refusal exactly when its last action asks and is refused. -/
theorem refused_iff {start : State}
    (performed : run (attempt step asks) (.begin start) calls = some final) :
    final.refused = true ↔ ∃ earlier action reached next, calls = earlier ++ [(action, true)] ∧
      run (attempt step asks) (.begin start) earlier = some (.begin reached) ∧
      step reached action = some next ∧ asks reached next = true := by
  constructor
  · intro refused
    rcases List.eq_nil_or_concat calls with empty | ⟨earlier, last, split⟩
    · subst calls
      cases performed
      contradiction
    · rw [List.concat_eq_append] at split
      subst calls
      rw [run_append] at performed
      obtain ⟨middle, ran, rest⟩ := Option.bind_eq_some_iff.mp performed
      obtain ⟨same, ends, final_⟩ := run_cons_some rest
      cases final_
      obtain ⟨going, next, enabled, denied | granted⟩ := attempt_cases ends
      · obtain ⟨action, refusal⟩ := last
        obtain ⟨state, flag⟩ := middle
        dsimp only at going denied enabled
        rw [going] at ran
        rw [denied.1]
        exact ⟨earlier, action, state, next, rfl, ran, enabled, denied.2.1⟩
      · rw [granted] at refused
        contradiction
  · intro denied
    obtain ⟨earlier, action, reached, next, split, ran, enabled, asked⟩ := denied
    rw [split, run_append, ran] at performed
    obtain ⟨last, ends, same⟩ := run_cons_some performed
    cases same
    have ended : attempt step asks (.begin reached) (action, true) = some ⟨reached, true⟩ := by
      simp [attempt, Attempted.begin, enabled, asked]
    rw [ended] at ends
    cases ends
    rfl

end Rules

end CoreLib.Foundation
