/-
What `terminate` does to a looper.

`Transition` lists everything that one step can do, and `Consistent` is the
invariant that ties the flag, the pipe and the callers of `terminate` together.
The results are about every run: no wake-up is lost while the loop waits, a loop
that has been flagged begins at most one more dispatch, a loop that is flagged
before it is called dispatches nothing, and every return and every token is paid
for by a call of `terminate`.
-/

import CoreLib.Looper

set_option autoImplicit false

namespace CoreLib.Looper

open Foundation

variable {Thread Source : Type} [DecidableEq Thread] [DecidableEq Source]

/-! ### What a step can do -/

inductive Transition (state : State Thread Source) :
    Action Thread Source → State Thread Source → Prop where
  | current : Transition state .current { state with constructed := true }
  | addSource (source : Source) (user : state.userCode = true) :
      Transition state (.addSource source) (state.addSource (.user source))
  | removeSource (source : Source) (user : state.userCode = true) :
      Transition state (.removeSource source) (state.removeSource (.user source))
  | loop (here : state.point = .outside) :
      Transition state .loop { state with
        point := .create
        dispatches := 0 }
  | createFirst (here : state.point = .create) (null : state.trivialSource = false) :
      Transition state .create { state.addSource .trivialSource with
        trivialSource := true
        point := .test }
  | createAgain (here : state.point = .create) (created : state.trivialSource = true) :
      Transition state .create { state with point := .test }
  | testExit (here : state.point = .test) (flag : state.shouldTerminate = true) :
      Transition state .test { state with point := .reset }
  | testWait (here : state.point = .test) (flag : state.shouldTerminate = false) :
      Transition state .test { state with point := .wait }
  | waitNull (here : state.point = .wait) :
      Transition state (.wait none) { state with point := .test }
  | waitReady (source : Registered Source) (here : state.point = .wait)
      (member : source ∈ state.waitSet.sources) (ready : source = .trivialSource → 0 < state.pipe) :
      Transition state (.wait (some source)) { state with
        point := .reader source
        dispatches := state.dispatches + 1 }
  | readTrivial (here : state.point = .reader .trivialSource) (token : 0 < state.pipe) :
      Transition state .read { state with
        point := .awoken .trivialSource
        pipe := state.pipe - 1
        consumed := state.consumed + 1 }
  | readUser (source : Source) (here : state.point = .reader (.user source))
      (done : Caller.callback ∉ state.terminating) :
      Transition state .read { state with point := .awoken (.user source) }
  | awaken (source : Registered Source) (here : state.point = .awoken source)
      (done : Caller.callback ∉ state.terminating) :
      Transition state .awaken { state with point := .test }
  | reset (here : state.point = .reset) : Transition state .reset state.reset
  | setFlag (caller : Caller Thread) (idle : caller ∉ state.terminating)
      (inside : caller = .callback → state.point.callback = true) :
      Transition state (.setFlag caller) (state.setFlag caller)
  | wakeWritten (caller : Caller Thread) (between : caller ∈ state.terminating)
      (created : state.trivialSource = true) :
      Transition state (.wake caller) { state with
        terminating := state.terminating.erase caller
        pipe := state.pipe + 1
        written := state.written + 1 }
  | wakeNull (caller : Caller Thread) (between : caller ∈ state.terminating)
      (null : state.trivialSource = false) :
      Transition state (.wake caller) { state with crashed := true }

private theorem of_ite {State : Type} {condition : Prop} [Decidable condition]
    {value next : State} (enabled : (if condition then some value else none) = some next) :
    condition ∧ next = value := by
  by_cases holds : condition
  · rw [if_pos holds] at enabled
    exact ⟨holds, (Option.some.inj enabled).symm⟩
  · rw [if_neg holds] at enabled
    contradiction

omit [DecidableEq Source] in
private theorem callbackDone_iff {state : State Thread Source} :
    state.callbackDone = true ↔ Caller.callback ∉ state.terminating := by
  unfold State.callbackDone
  simp

theorem step_cases {state next : State Thread Source} {action : Action Thread Source}
    (enabled : step state action = some next) :
    state.crashed = false ∧ Transition state action next := by
  unfold step at enabled
  split at enabled
  · contradiction
  · rename_i running
    refine ⟨Bool.eq_false_iff.mpr running, ?_⟩
    cases action with
    | current =>
        cases enabled
        exact .current
    | addSource source =>
        obtain ⟨⟨_, user⟩, same⟩ := of_ite enabled
        subst next
        exact .addSource source user
    | removeSource source =>
        obtain ⟨⟨_, user⟩, same⟩ := of_ite enabled
        subst next
        exact .removeSource source user
    | loop =>
        obtain ⟨⟨_, here⟩, same⟩ := of_ite enabled
        subst next
        exact .loop here
    | create =>
        obtain ⟨here, same⟩ := of_ite enabled
        subst next
        unfold State.create
        by_cases created : state.trivialSource = true
        · rw [if_pos created]
          exact .createAgain here created
        · rw [if_neg created]
          exact .createFirst here (Bool.eq_false_iff.mpr created)
    | test =>
        obtain ⟨here, same⟩ := of_ite enabled
        subst next
        unfold State.test
        by_cases flag : state.shouldTerminate = true
        · rw [if_pos flag]
          exact .testExit here flag
        · rw [if_neg flag]
          exact .testWait here (Bool.eq_false_iff.mpr flag)
    | wait source =>
        dsimp only at enabled
        split at enabled
        · rename_i here
          cases source with
          | none =>
              cases enabled
              exact .waitNull here
          | some source =>
              obtain ⟨⟨member, ready⟩, same⟩ := of_ite enabled
              subst next
              exact .waitReady source here member ready
        · contradiction
    | read =>
        change state.read = some next at enabled
        unfold State.read at enabled
        split at enabled
        · rename_i here
          obtain ⟨token, same⟩ := of_ite enabled
          subst next
          exact .readTrivial here token
        · rename_i source here
          obtain ⟨done, same⟩ := of_ite enabled
          subst next
          exact .readUser source here (callbackDone_iff.mp done)
        · contradiction
    | awaken =>
        change state.awaken = some next at enabled
        unfold State.awaken at enabled
        split at enabled
        · rename_i source here
          obtain ⟨done, same⟩ := of_ite enabled
          subst next
          exact .awaken source here (callbackDone_iff.mp done)
        · contradiction
    | reset =>
        obtain ⟨here, same⟩ := of_ite enabled
        subst next
        exact .reset here
    | setFlag caller =>
        obtain ⟨⟨_, idle, inside⟩, same⟩ := of_ite enabled
        subst next
        exact .setFlag caller idle inside
    | wake caller =>
        obtain ⟨between, same⟩ := of_ite enabled
        subst next
        unfold State.wake
        by_cases created : state.trivialSource = true
        · rw [if_pos created]
          exact .wakeWritten caller between created
        · rw [if_neg created]
          exact .wakeNull caller between (Bool.eq_false_iff.mpr created)

/-! ### The invariant -/

structure Consistent (state : State Thread Source) : Prop where
  waiting : state.shouldTerminate = true → state.point = .wait →
    0 < state.pipe ∨ state.terminating ≠ []
  exiting : state.point = .reset → state.shouldTerminate = true
  reading : state.point = .reader .trivialSource → 0 < state.pipe
  created : state.point ≠ .outside → state.point ≠ .create → state.trivialSource = true
  registered : state.trivialSource = true →
    Registered.trivialSource ∈ state.waitSet.sources
  returns : state.returned.length + state.shouldTerminate.toNat ≤ state.flagged
  writes : state.written + state.terminating.length = state.flagged
  tokens : state.consumed + state.pipe = state.written

omit [DecidableEq Thread] [DecidableEq Source] in
theorem initial_consistent : Consistent (initial : State Thread Source) :=
  ⟨nofun, nofun, nofun, fun outside => absurd rfl outside, nofun, Nat.le_refl _, rfl, rfl⟩

omit [DecidableEq Thread] [DecidableEq Source] in
private theorem Consistent.move {state : State Thread Source} (consistent : Consistent state)
    (point : Point Source) (dispatches : Nat)
    (waiting : point = .wait → state.shouldTerminate = false)
    (exiting : point = .reset → state.shouldTerminate = true)
    (reading : point = .reader .trivialSource → 0 < state.pipe)
    (created : point ≠ .outside → point ≠ .create → state.trivialSource = true) :
    Consistent { state with
      point := point
      dispatches := dispatches } :=
  { waiting := by
      intro flag here
      rw [waiting here] at flag
      contradiction
    exiting := exiting
    reading := reading
    created := created
    registered := consistent.registered
    returns := consistent.returns
    writes := consistent.writes
    tokens := consistent.tokens }

omit [DecidableEq Thread] [DecidableEq Source] in
private theorem Consistent.inside {state : State Thread Source} (consistent : Consistent state)
    {point : Point Source} (here : state.point = point) (entered : point ≠ .outside)
    (past : point ≠ .create) : state.trivialSource = true := by
  apply consistent.created
  · rw [here]
    exact entered
  · rw [here]
    exact past

theorem Transition.consistent {state next : State Thread Source} {action : Action Thread Source}
    (transition : Transition state action next) (consistent : Consistent state) :
    Consistent next := by
  cases transition with
  | current => exact { consistent with }
  | addSource source user =>
      refine { consistent with registered := ?_ }
      intro created
      exact WaitSet.mem_addSource.mpr (Or.inr (consistent.registered created))
  | removeSource source user =>
      refine { consistent with registered := ?_ }
      intro created
      exact WaitSet.mem_removeSource.mpr ⟨nofun, consistent.registered created⟩
  | loop here =>
      exact consistent.move .create 0 nofun nofun nofun fun _ past => absurd rfl past
  | createFirst here null =>
      exact
        { consistent with
          waiting := nofun
          exiting := nofun
          reading := nofun
          created := fun _ _ => rfl
          registered := fun _ => WaitSet.mem_addSource.mpr (Or.inl rfl) }
  | createAgain here created =>
      exact consistent.move .test _ nofun nofun nofun fun _ _ => created
  | testExit here flag =>
      exact consistent.move .reset _ nofun (fun _ => flag) nofun
        fun _ _ => consistent.inside here nofun nofun
  | testWait here flag =>
      exact consistent.move .wait _ (fun _ => flag) nofun nofun
        fun _ _ => consistent.inside here nofun nofun
  | waitNull here =>
      exact consistent.move .test _ nofun nofun nofun
        fun _ _ => consistent.inside here nofun nofun
  | waitReady source here member ready =>
      refine consistent.move (.reader source) _ nofun nofun ?_
        fun _ _ => consistent.inside here nofun nofun
      intro same
      exact ready (Point.reader.inj same)
  | readTrivial here token =>
      have tokens := consistent.tokens
      exact
        { consistent with
          waiting := nofun
          exiting := nofun
          reading := nofun
          created := fun _ _ => consistent.inside here nofun nofun
          tokens := by
            dsimp only
            omega }
  | readUser source here done =>
      exact consistent.move (.awoken (.user source)) _ nofun nofun nofun
        fun _ _ => consistent.inside here nofun nofun
  | awaken source here done =>
      exact consistent.move .test _ nofun nofun nofun
        fun _ _ => consistent.inside here nofun nofun
  | reset here =>
      have returns := consistent.returns
      rw [consistent.exiting here] at returns
      exact
        { consistent with
          waiting := nofun
          exiting := nofun
          reading := nofun
          created := fun outside => absurd rfl outside
          returns := by
            simp only [State.reset, List.length_append, List.length_singleton]
            exact returns }
  | setFlag caller idle inside =>
      have returns := consistent.returns
      have writes := consistent.writes
      exact
        { consistent with
          waiting := fun _ _ => Or.inr (List.cons_ne_nil _ _)
          exiting := fun _ => rfl
          returns := by
            simp only [State.setFlag, Bool.toNat_true]
            omega
          writes := by
            simp only [State.setFlag, List.length_cons]
            omega }
  | wakeWritten caller between created =>
      have writes := consistent.writes
      have tokens := consistent.tokens
      have erased := List.length_erase_of_mem between
      have some_ := List.length_pos_of_mem between
      exact
        { consistent with
          waiting := fun _ _ => Or.inl (Nat.succ_pos _)
          reading := fun _ => Nat.succ_pos _
          writes := by
            dsimp only
            omega
          tokens := by
            dsimp only
            omega }
  | wakeNull caller between null => exact { consistent with }

theorem step_consistent {state next : State Thread Source} {action : Action Thread Source}
    (consistent : Consistent state) (enabled : step state action = some next) : Consistent next :=
  (step_cases enabled).2.consistent consistent

theorem run_consistent {final : State Thread Source} {actions : List (Action Thread Source)}
    (performed : run step initial actions = some final) : Consistent final :=
  run_preserves (fun _ _ _ consistent enabled => step_consistent consistent enabled)
    initial_consistent performed

/-! ### After the flag is set -/

theorem Transition.returned_kept {state next : State Thread Source}
    {action : Action Thread Source} (transition : Transition state action next) {index count : Nat}
    (logged : state.returned[index]? = some count) : next.returned[index]? = some count := by
  cases transition with
  | reset here =>
      obtain ⟨within, _⟩ := List.getElem?_eq_some_iff.mp logged
      rw [State.reset, List.getElem?_append_left within]
      exact logged
  | _ => exact logged

/-- Only a loop that already waits can begin a dispatch without testing the flag. -/
def Point.budget : Point Source → Nat
  | .wait => 1
  | _ => 0

/-- The running loop is flagged and has at most its budget left, or it has returned
within the limit. -/
def Draining (index limit : Nat) (state : State Thread Source) : Prop :=
  (state.shouldTerminate = true ∧ state.point ≠ .outside ∧ state.returned.length = index ∧
      state.dispatches + state.point.budget ≤ limit) ∨
    ∃ count, state.returned[index]? = some count ∧ count ≤ limit

theorem Transition.draining {state next : State Thread Source} {action : Action Thread Source}
    {index limit : Nat} (transition : Transition state action next)
    (draining : Draining index limit state) : Draining index limit next := by
  rcases draining with ⟨flag, inside, length, within⟩ | ⟨count, logged, small⟩
  · cases transition with
    | current => exact Or.inl ⟨flag, inside, length, within⟩
    | addSource source user => exact Or.inl ⟨flag, inside, length, within⟩
    | removeSource source user => exact Or.inl ⟨flag, inside, length, within⟩
    | loop here => exact absurd here inside
    | createFirst here null =>
        rw [here] at within
        exact Or.inl ⟨flag, nofun, length, within⟩
    | createAgain here created =>
        rw [here] at within
        exact Or.inl ⟨flag, nofun, length, within⟩
    | testExit here _ =>
        rw [here] at within
        exact Or.inl ⟨flag, nofun, length, within⟩
    | testWait here clear =>
        rw [flag] at clear
        contradiction
    | waitNull here =>
        exact Or.inl ⟨flag, nofun, length, Nat.le_trans (Nat.le_add_right _ _) within⟩
    | waitReady source here member ready =>
        rw [here] at within
        exact Or.inl ⟨flag, nofun, length, within⟩
    | readTrivial here token =>
        rw [here] at within
        exact Or.inl ⟨flag, nofun, length, within⟩
    | readUser source here done =>
        rw [here] at within
        exact Or.inl ⟨flag, nofun, length, within⟩
    | awaken source here done =>
        rw [here] at within
        exact Or.inl ⟨flag, nofun, length, within⟩
    | reset here =>
        refine Or.inr ⟨state.dispatches, ?_, by omega⟩
        rw [State.reset, ← length]
        exact List.getElem?_concat_length
    | setFlag caller idle _ => exact Or.inl ⟨rfl, inside, length, within⟩
    | wakeWritten caller between created => exact Or.inl ⟨flag, inside, length, within⟩
    | wakeNull caller between null => exact Or.inl ⟨flag, inside, length, within⟩
  · exact Or.inr ⟨count, transition.returned_kept logged, small⟩

/-- However the run goes on, the loop() call of this state begins at most `extra`
more dispatches before it returns. -/
def DispatchesAtMost (extra : Nat) (state : State Thread Source) : Prop :=
  ∀ actions final, run step state actions = some final →
    (final.returned.length = state.returned.length →
      final.dispatches ≤ state.dispatches + extra) ∧
    ∀ count, final.returned[state.returned.length]? = some count →
      count ≤ state.dispatches + extra

theorem dispatchesAtMost_budget {state : State Thread Source}
    (flag : state.shouldTerminate = true) (inside : state.point ≠ .outside) :
    DispatchesAtMost state.point.budget state := by
  intro actions final performed
  have draining : Draining state.returned.length (state.dispatches + state.point.budget) final :=
    run_preserves (fun _ _ _ draining enabled => (step_cases enabled).2.draining draining)
      (Or.inl ⟨flag, inside, rfl, Nat.le_refl _⟩) performed
  rcases draining with ⟨_, _, length, within⟩ | ⟨count, logged, small⟩
  · constructor
    · intro _
      omega
    · intro count logged
      obtain ⟨beyond, _⟩ := List.getElem?_eq_some_iff.mp logged
      omega
  · obtain ⟨beyond, _⟩ := List.getElem?_eq_some_iff.mp logged
    constructor
    · intro same
      omega
    · intro other found
      rw [logged] at found
      cases found
      exact small

theorem DispatchesAtMost.mono {fewer more : Nat} {state : State Thread Source}
    (bound : DispatchesAtMost fewer state) (le : fewer ≤ more) : DispatchesAtMost more state := by
  intro actions final performed
  obtain ⟨running, done⟩ := bound actions final performed
  constructor
  · intro same
    have within := running same
    omega
  · intro count logged
    have within := done count logged
    omega

/-- A callback that terminates its own loop runs between two tests of the flag. -/
def Caller.extra : Caller Thread → Nat
  | .thread _ => 1
  | .callback => 0

omit [DecidableEq Thread] [DecidableEq Source] in
private theorem budget_le_extra {point : Point Source} {caller : Caller Thread}
    (inside : caller = .callback → point.callback = true) : point.budget ≤ caller.extra := by
  cases caller with
  | thread thread =>
      cases point with
      | wait => exact Nat.le_refl 1
      | _ => exact Nat.zero_le _
  | callback =>
      have running := inside rfl
      cases point with
      | wait => contradiction
      | _ => exact Nat.le_refl 0

/-! ### Before the loop is called -/

def Action.isLoop : Action Thread Source → Bool
  | .loop => true
  | .create => true
  | .test => true
  | .wait _ => true
  | .read => true
  | .awaken => true
  | .reset => true
  | _ => false

/-- The steps that a flagged loop still takes before it has returned. -/
def Point.rank : Point Source → Nat
  | .outside => 4
  | .create => 3
  | .test => 2
  | .reset => 1
  | _ => 0

/-- The flag is set and the loop that will see it has dispatched nothing. -/
structure Flagged (index : Nat) (state : State Thread Source) : Prop where
  flag : state.shouldTerminate = true
  length : state.returned.length = index
  early : 0 < state.point.rank
  idle : state.point ≠ .outside → state.dispatches = 0

structure Usable (state : State Thread Source) : Prop where
  running : state.crashed = false
  constructed : state.constructed = true
  created : state.trivialSource = true

omit [DecidableEq Thread] in
theorem flagged_outside {state : State Thread Source} {caller : Caller Thread} {index : Nat}
    (outside : state.point = .outside) (length : state.returned.length = index) :
    Flagged index (state.setFlag caller) :=
  { flag := rfl
    length := length
    early := by
      simp only [State.setFlag, outside]
      exact Nat.succ_pos 3
    idle := fun inside => absurd outside inside }

theorem Flagged.enabled {index : Nat} {state : State Thread Source}
    (flagged : Flagged index state) (live : state.crashed = false)
    (constructed : state.constructed = true) :
    ∃ action, action.isLoop = true ∧ (step state action).isSome = true := by
  have early := flagged.early
  have running : ¬ state.crashed = true := Bool.eq_false_iff.mp live
  cases here : state.point with
  | outside =>
      refine ⟨.loop, rfl, ?_⟩
      simp only [step, if_neg running, here, constructed, and_self, if_true,
        Option.isSome_some]
  | create =>
      refine ⟨.create, rfl, ?_⟩
      simp only [step, if_neg running, here, if_true, Option.isSome_some]
  | test =>
      refine ⟨.test, rfl, ?_⟩
      simp only [step, if_neg running, here, if_true, Option.isSome_some]
  | reset =>
      refine ⟨.reset, rfl, ?_⟩
      simp only [step, if_neg running, here, if_true, Option.isSome_some]
  | wait =>
      rw [here] at early
      contradiction
  | reader source =>
      rw [here] at early
      contradiction
  | awoken source =>
      rw [here] at early
      contradiction

/-- The next loop() call of a looper outside its loop returns without a dispatch: it
is never stuck, and after three steps of its own only the return is left. -/
def ReturnsAtOnce (state : State Thread Source) : Prop :=
  ∀ actions final, run step state actions = some final →
    (final.returned.length = state.returned.length →
      (actions.map fun action => action.isLoop.toNat).sum ≤ 3 ∧
        (final.point ≠ .outside → final.dispatches = 0) ∧
        ∃ action, action.isLoop = true ∧ (step final action).isSome = true) ∧
    ∀ count, final.returned[state.returned.length]? = some count → count = 0

theorem Transition.flagged {state next : State Thread Source} {action : Action Thread Source}
    {index : Nat} (transition : Transition state action next) (flagged : Flagged index state) :
    (Flagged index next ∧ action.isLoop.toNat + next.point.rank ≤ state.point.rank) ∨
      next.returned[index]? = some 0 := by
  have flag := flagged.flag
  have early := flagged.early
  cases transition with
  | current => exact Or.inl ⟨{ flagged with }, Nat.le_of_eq (Nat.zero_add _)⟩
  | addSource source user => exact Or.inl ⟨{ flagged with }, Nat.le_of_eq (Nat.zero_add _)⟩
  | removeSource source user => exact Or.inl ⟨{ flagged with }, Nat.le_of_eq (Nat.zero_add _)⟩
  | loop here =>
      rw [here]
      exact Or.inl ⟨{ flagged with
        early := (by decide : 0 < 3)
        idle := fun _ => rfl }, Nat.le_refl 4⟩
  | createFirst here null =>
      rw [here]
      have idle := flagged.idle (by rw [here]; nofun)
      exact Or.inl ⟨{ flagged with
        early := (by decide : 0 < 2)
        idle := fun _ => idle }, Nat.le_refl 3⟩
  | createAgain here created =>
      rw [here]
      have idle := flagged.idle (by rw [here]; nofun)
      exact Or.inl ⟨{ flagged with
        early := (by decide : 0 < 2)
        idle := fun _ => idle }, Nat.le_refl 3⟩
  | testExit here _ =>
      rw [here]
      have idle := flagged.idle (by rw [here]; nofun)
      exact Or.inl ⟨{ flagged with
        early := (by decide : 0 < 1)
        idle := fun _ => idle }, Nat.le_refl 2⟩
  | testWait here clear =>
      rw [flag] at clear
      contradiction
  | waitNull here =>
      rw [here] at early
      contradiction
  | waitReady source here member ready =>
      rw [here] at early
      contradiction
  | readTrivial here token =>
      rw [here] at early
      contradiction
  | readUser source here done =>
      rw [here] at early
      contradiction
  | awaken source here done =>
      rw [here] at early
      contradiction
  | reset here =>
      have idle := flagged.idle (by rw [here]; nofun)
      refine Or.inr ?_
      rw [State.reset, ← flagged.length, idle]
      exact List.getElem?_concat_length
  | setFlag caller idle _ =>
      exact Or.inl ⟨{ flagged with flag := rfl }, Nat.le_of_eq (Nat.zero_add _)⟩
  | wakeWritten caller between created =>
      exact Or.inl ⟨{ flagged with }, Nat.le_of_eq (Nat.zero_add _)⟩
  | wakeNull caller between null =>
      exact Or.inl ⟨{ flagged with }, Nat.le_of_eq (Nat.zero_add _)⟩

theorem Transition.usable {state next : State Thread Source} {action : Action Thread Source}
    (transition : Transition state action next) (usable : Usable state) : Usable next := by
  cases transition with
  | current => exact { usable with constructed := rfl }
  | createFirst here null => exact { usable with created := rfl }
  | wakeNull caller between null =>
      rw [usable.created] at null
      contradiction
  | _ => exact { usable with }

theorem Flagged.returnsAtOnce {state : State Thread Source}
    (flagged : Flagged state.returned.length state) (usable : Usable state) :
    ReturnsAtOnce state := by
  intro actions final performed
  have reached := run_until (Flagged state.returned.length)
    (fun current : State Thread Source =>
      current.returned[state.returned.length]? = some 0)
    (fun action : Action Thread Source => action.isLoop.toNat)
    (fun current : State Thread Source => current.point.rank)
    (fun _ _ _ flagged enabled => (step_cases enabled).2.flagged flagged)
    (fun _ _ _ logged enabled => (step_cases enabled).2.returned_kept logged)
    flagged performed
  have live : Usable final :=
    run_preserves (fun _ _ _ usable enabled => (step_cases enabled).2.usable usable)
      usable performed
  have most : state.point.rank ≤ 4 := by
    unfold Point.rank
    split <;> omega
  rcases reached with ⟨still, spent⟩ | logged
  · have early := still.early
    refine ⟨fun _ => ⟨by omega, still.idle, still.enabled live.running live.constructed⟩, ?_⟩
    intro count logged
    obtain ⟨beyond, _⟩ := List.getElem?_eq_some_iff.mp logged
    have length := still.length
    omega
  · obtain ⟨beyond, _⟩ := List.getElem?_eq_some_iff.mp logged
    constructor
    · intro same
      omega
    · intro count found
      rw [logged] at found
      cases found
      rfl

theorem setFlag_cases {state next : State Thread Source} {caller : Caller Thread}
    (enabled : step state (.setFlag caller) = some next) :
    state.crashed = false ∧ state.constructed = true ∧
      (caller = .callback → state.point.callback = true) ∧ next = state.setFlag caller := by
  obtain ⟨running, _⟩ := step_cases enabled
  have stepped := enabled
  unfold step at stepped
  rw [if_neg (Bool.eq_false_iff.mp running)] at stepped
  obtain ⟨⟨constructed, _, inside⟩, same⟩ := of_ite stepped
  exact ⟨running, constructed, inside, same⟩

/-- No wake-up is lost, a flagged loop begins at most one more dispatch, a loop called
on a flagged looper dispatches nothing, and no return or token is spurious. -/
theorem terminate_wakes_loop {state : State Thread Source}
    {actions : List (Action Thread Source)} (performed : run step initial actions = some state) :
    (state.shouldTerminate = true → state.point = .wait →
      0 < state.pipe ∨ state.terminating ≠ []) ∧
    (∀ caller next, step state (.setFlag caller) = some next → state.point ≠ .outside →
      DispatchesAtMost caller.extra next) ∧
    (∀ caller next, step state (.setFlag caller) = some next → state.point = .outside →
      state.trivialSource = true → ReturnsAtOnce next) ∧
    state.returned.length ≤ state.flagged ∧
    state.written + state.terminating.length = state.flagged ∧
    state.consumed + state.pipe = state.written := by
  have consistent := run_consistent performed
  refine ⟨consistent.waiting, ?_, ?_, ?_, consistent.writes, consistent.tokens⟩
  · intro caller next enabled inside
    obtain ⟨_, _, callback, same⟩ := setFlag_cases enabled
    subst next
    have bound : DispatchesAtMost (state.setFlag caller).point.budget (state.setFlag caller) :=
      dispatchesAtMost_budget rfl inside
    exact bound.mono (budget_le_extra callback)
  · intro caller next enabled outside created
    obtain ⟨running, constructed, _, same⟩ := setFlag_cases enabled
    subst next
    have flagged : Flagged state.returned.length (state.setFlag caller) :=
      flagged_outside outside rfl
    exact flagged.returnsAtOnce ⟨running, constructed, created⟩
  · have returns := consistent.returns
    omega

/-- The looper waits, a thread stands between its two steps, and another source is
dispatched first. -/
def sampleRun : List (Action Nat Nat) :=
  [.current, .addSource 8, .loop, .create, .test, .setFlag (.thread 1), .wait (some (.user 8)),
    .read, .wake (.thread 1), .awaken, .test, .reset, .loop, .create, .test]

theorem terminate_wakes_loop_sampleRun :
    ∃ state : State Nat Nat, run step initial sampleRun = some state ∧ state.point = .wait ∧
      state.returned = [1] ∧ state.consumed + state.pipe = state.written := by
  obtain ⟨state, performed, here, returned⟩ :
      ∃ state : State Nat Nat, run step initial sampleRun = some state ∧ state.point = .wait ∧
        state.returned = [1] := ⟨_, rfl, rfl, rfl⟩
  obtain ⟨_, _, _, _, _, tokens⟩ := terminate_wakes_loop performed
  exact ⟨state, performed, here, returned, tokens⟩

end CoreLib.Looper
