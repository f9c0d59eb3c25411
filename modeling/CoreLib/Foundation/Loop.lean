/-
Loops without a bound on the number of turns.

The body either asks for another turn or leaves the loop with a result.  `iterate`
makes a given number of turns; a loop ends when some number of turns is enough.
-/

import Mathlib

set_option autoImplicit false

namespace CoreLib.Foundation

universe u v

inductive Turn (State : Type u) (Result : Type v) where
  | again (state : State)
  | leave (result : Result)

variable {State : Type u} {Result : Type v}

def iterate (body : State → Turn State Result) : Nat → State → Option Result
  | 0, _ => none
  | turns + 1, state =>
      match body state with
      | .again next => iterate body turns next
      | .leave result => some result

variable {body : State → Turn State Result} {state next : State} {result : Result}

theorem iterate_again (asks : body state = .again next) (turns : Nat) :
    iterate body (turns + 1) state = iterate body turns next := by
  simp only [iterate, asks]

theorem iterate_leave (leaves : body state = .leave result) (turns : Nat) :
    iterate body (turns + 1) state = some result := by
  simp only [iterate, leaves]

/-- A body that does not change the state never leaves. -/
theorem iterate_stuck (asks : body state = .again state) (turns : Nat) :
    iterate body turns state = none := by
  induction turns with
  | zero => rfl
  | succ turns ih =>
      rw [iterate_again asks]
      exact ih

end CoreLib.Foundation
