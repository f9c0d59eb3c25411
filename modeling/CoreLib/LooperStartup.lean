/-
Terminating a looper around its first loop().

`Looper::Current` publishes the looper before the first `loop()` creates the trivial
source that `terminate` writes to.
-/

import CoreLib.LooperTermination

set_option autoImplicit false

namespace CoreLib.Looper

open Foundation

variable {Thread Source : Type} [DecidableEq Thread] [DecidableEq Source]

/-- No null `_trivialSource` has been used, and if the flag was set before the first
loop() then that loop can always go on to its return, or has returned, without a
dispatch. -/
structure Valid (state : State Thread Source) : Prop where
  running : state.crashed = false
  heard : state.early = true →
    (Flagged 0 state ∧ ∃ action, action.isLoop = true ∧ (step state action).isSome = true) ∨
      state.returned[0]? = some 0

/-- A thread writes its wake token only once the trivial source exists. -/
def WakesAfterCreation (state : State Thread Source) : Action Thread Source → Prop
  | .wake _ => state.trivialSource = true
  | _ => True

structure Heard (state : State Thread Source) : Prop where
  running : state.crashed = false
  heard : state.early = true → state.constructed = true ∧
    (Flagged 0 state ∨ state.returned[0]? = some 0)

omit [DecidableEq Thread] [DecidableEq Source] in
theorem initial_heard : Heard (initial : State Thread Source) := ⟨rfl, nofun⟩

theorem Heard.valid {state : State Thread Source} (heard : Heard state) : Valid state := by
  refine ⟨heard.running, fun early => ?_⟩
  obtain ⟨constructed, flagged | logged⟩ := heard.heard early
  · exact Or.inl ⟨flagged, flagged.enabled heard.running constructed⟩
  · exact Or.inr logged

/-- Only a store to the flag before the first loop() makes a looper early. -/
private theorem early_cases {state next : State Thread Source} {action : Action Thread Source}
    (enabled : step state action = some next) (early : next.early = true) :
    state.early = true ∨ (next.constructed = true ∧ Flagged 0 next) := by
  obtain ⟨_, transition⟩ := step_cases enabled
  cases transition with
  | setFlag caller idle inside =>
      obtain ⟨_, constructed, _, _⟩ := setFlag_cases enabled
      simp only [State.setFlag, Bool.or_eq_true, Bool.and_eq_true, decide_eq_true_eq,
        List.isEmpty_iff] at early
      rcases early with before | ⟨first, outside⟩
      · exact Or.inl before
      · exact Or.inr ⟨constructed, flagged_outside outside (by rw [first]; rfl)⟩
  | _ => exact Or.inl early

private theorem Transition.constructed {state next : State Thread Source}
    {action : Action Thread Source} (transition : Transition state action next)
    (constructed : state.constructed = true) : next.constructed = true := by
  cases transition with
  | current => rfl
  | _ => exact constructed

theorem step_heard {state next : State Thread Source} {action : Action Thread Source}
    (heard : Heard state) (safe : WakesAfterCreation state action)
    (enabled : step state action = some next) : Heard next := by
  obtain ⟨_, transition⟩ := step_cases enabled
  constructor
  · cases transition with
    | wakeNull caller between null =>
        rw [WakesAfterCreation, null] at safe
        contradiction
    | _ => exact heard.running
  · intro early
    rcases early_cases enabled early with before | ⟨constructed, flagged⟩
    · obtain ⟨constructed, flagged | logged⟩ := heard.heard before
      · refine ⟨transition.constructed constructed, ?_⟩
        rcases transition.flagged flagged with ⟨still, _⟩ | logged
        · exact Or.inl still
        · exact Or.inr logged
      · exact ⟨transition.constructed constructed, Or.inr (transition.returned_kept logged)⟩
    · exact ⟨constructed, Or.inl flagged⟩

theorem null_wake_not_valid {state next : State Thread Source} {action : Action Thread Source}
    (transition : Transition state action next) (early : ¬ WakesAfterCreation state action) :
    ¬ Valid next := by
  cases transition with
  | wakeWritten caller between created => exact absurd created early
  | wakeNull caller between null => exact fun valid => Bool.noConfusion valid.running
  | _ => exact absurd trivial early

/-- Along every run from before the owner's first call, `terminate` is safe and heard
exactly as long as every wake token is written after the trivial source was created. -/
theorem terminate_valid_iff (actions : List (Action Thread Source)) :
    Always step Valid initial actions ↔ Respects step WakesAfterCreation initial actions :=
  always_iff_respects (fun _ => True) Heard
    (fun _ _ _ heard _ safe enabled => step_heard heard safe enabled)
    (fun _ heard => heard.valid)
    (fun _ _ _ _ early enabled => null_wake_not_valid (step_cases enabled).2 early)
    initial_heard fun _ _ => trivial

/-- Another thread terminates the looper before its owner has called loop(). -/
def earlyRun : List (Action Nat Nat) := [.current, .setFlag (.thread 1), .wake (.thread 1)]

theorem early_terminate_uses_null :
    (∃ final : State Nat Nat, run step initial earlyRun = some final ∧ final.crashed = true) ∧
      ¬ Always step Valid (initial : State Nat Nat) earlyRun := by
  have crashes : ∃ final : State Nat Nat, run step initial earlyRun = some final ∧
      final.crashed = true := ⟨_, rfl, rfl⟩
  refine ⟨crashes, fun always => ?_⟩
  obtain ⟨final, performed, crashed⟩ := crashes
  have running := (always.final performed).running
  rw [crashed] at running
  contradiction

end CoreLib.Looper
