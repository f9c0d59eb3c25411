/-
What a call leaves to the objects that it does not name.

A source can lose its wait sets in any call, but the references of its user change only
when the user copies or drops one.  A wait set comes and goes only by its own name.
-/

import CoreLib.SourceLifetimeInvariant

set_option autoImplicit false

namespace CoreLib.SourceLifetime

open Foundation

variable {Id : Type} [DecidableEq Id]

namespace Process

variable {process : Process Id}

/-- The source has the maker and the references of the user that it had, and stays while the
user has any. -/
structure Untouched (id : Id) (before after : Process Id) : Prop where
  back : ∀ now, after.sources id = some now → ∃ old, before.sources id = some old ∧
    now.maker = old.maker ∧ now.references.count .user = old.references.count .user
  forth : ∀ old, before.sources id = some old → 0 < old.references.count .user →
    ∃ now, after.sources id = some now

theorem Untouched.of_sources {id : Id} {after : Process Id}
    (sources : after.sources id = process.sources id) : Untouched id process after := by
  constructor
  · intro now found
    rw [sources] at found
    exact ⟨now, found, rfl, rfl⟩
  · intro old found _
    rw [sources]
    exact ⟨old, found⟩

theorem Untouched.trans {id : Id} {before middle after : Process Id}
    (early : Untouched id before middle) (late : Untouched id middle after) :
    Untouched id before after := by
  constructor
  · intro now found
    obtain ⟨between, here, maker, count⟩ := late.back now found
    obtain ⟨old, earlier, same, equal⟩ := early.back between here
    exact ⟨old, earlier, maker.trans same, count.trans equal⟩
  · intro old found held
    obtain ⟨between, here⟩ := early.forth old found held
    obtain ⟨same, earlier, _, count⟩ := early.back between here
    rw [found] at earlier
    cases earlier
    rw [← count] at held
    exact late.forth between here held

structure Spares (id : Id) (before after : Process Id) : Prop extends
    Untouched id before after where
  sets : ∀ name, (after.waitSets name).isSome = (before.waitSets name).isSome

theorem Spares.refl (id : Id) (process : Process Id) : Spares id process process :=
  ⟨.of_sources rfl, fun _ => rfl⟩

theorem Spares.trans {id : Id} {before middle after : Process Id} (early : Spares id before middle)
    (late : Spares id middle after) : Spares id before after :=
  ⟨early.toUntouched.trans late.toUntouched, fun name => (late.sets name).trans (early.sets name)⟩

theorem foldl_spares {Item : Type} {id : Id} {change : Process Id → Item → Process Id}
    (items : List Item) (spares : ∀ process, ∀ item ∈ items, Spares id process (change process item))
    (process : Process Id) : Spares id process (items.foldl change process) := by
  induction items generalizing process with
  | nil => exact .refl id process
  | cons item items ih =>
      have first := spares process item (List.mem_cons_self ..)
      exact first.trans
        (ih (fun process other member => spares process other (List.mem_cons_of_mem _ member)) _)

theorem setSource_spares {one id : Id} {old new : Source Id}
    (found : process.sources one = some old) (maker : new.maker = old.maker)
    (count : one = id → new.references.count .user = old.references.count .user) :
    Spares id process (process.setSource one new) := by
  by_cases same : id = one
  · subst id
    refine ⟨⟨?_, ?_⟩, fun _ => rfl⟩
    · intro now present
      rw [setSource_sources, Function.update_self] at present
      cases present
      exact ⟨old, found, maker, count rfl⟩
    · intro source _ _
      rw [setSource_sources, Function.update_self]
      exact ⟨new, rfl⟩
  · refine ⟨.of_sources ?_, fun _ => rfl⟩
    rw [setSource_sources, Function.update_of_ne same]

theorem setWaitSet_spares {name id : Id} {set new : WaitSet Id}
    (present : process.waitSets name = some set) :
    Spares id process (process.setWaitSet name new) := by
  refine ⟨.of_sources rfl, fun other => ?_⟩
  by_cases same : other = name
  · rw [same, setWaitSet_waitSets, Function.update_self, present]
    rfl
  · rw [setWaitSet_waitSets, Function.update_of_ne same]

/-! ### Descriptors -/

omit [DecidableEq Id] in
theorem closeHandle_same (process : Process Id) (number : Int) :
    (process.closeHandle number).sources = process.sources ∧
      ∀ name, ((process.closeHandle number).waitSets name).isSome =
        (process.waitSets name).isSome := by
  unfold closeHandle
  cases process.table.find number with
  | none => exact ⟨rfl, fun _ => rfl⟩
  | some file => exact ⟨rfl, fun _ => Option.isSome_map⟩

theorem closeHandle_spares (process : Process Id) (number : Int) (id : Id) :
    Spares id process (process.closeHandle number) := by
  obtain ⟨sources, sets⟩ := closeHandle_same process number
  refine ⟨.of_sources ?_, sets⟩
  rw [sources]

omit [DecidableEq Id] in
theorem openFiles_same (files : List File) (process : Process Id) :
    (openFiles files process).2.sources = process.sources ∧
      (openFiles files process).2.waitSets = process.waitSets := by
  induction files generalizing process with
  | nil => exact ⟨rfl, rfl⟩
  | cons file files ih => exact ih (process.openFile file)

theorem handles_spares (process : Process Id) (one id : Id) :
    Spares id process (process.handles one) := by
  unfold handles
  cases found : process.sources one with
  | none => exact .refl id process
  | some source =>
      dsimp only
      split
      · exact .refl id process
      · obtain ⟨sources, waitSets⟩ := openFiles_same source.files process
        have opened : Spares id process (openFiles source.files process).2 := by
          refine ⟨.of_sources ?_, fun name => ?_⟩
          · rw [sources]
          · rw [waitSets]
        have still : (openFiles source.files process).2.sources one = some source := by
          rw [sources]
          exact found
        exact opened.trans (setSource_spares still rfl fun _ => rfl)

omit [DecidableEq Id] in
theorem deallocate_same (process : Process Id) (source : Source Id) :
    (process.deallocate source).sources = process.sources ∧
      ∀ name, ((process.deallocate source).waitSets name).isSome =
        (process.waitSets name).isSome := by
  unfold deallocate
  cases source.maker with
  | AsTrivial =>
      obtain ⟨sources, sets⟩ := closeHandle_same process source.handles.1
      obtain ⟨sourcesToo, setsToo⟩ :=
        closeHandle_same (process.closeHandle source.handles.1) source.handles.2
      exact ⟨sourcesToo.trans sources, fun name => (setsToo name).trans (sets name)⟩
  | AsTimer =>
      dsimp only
      split
      · exact ⟨rfl, fun _ => rfl⟩
      · exact closeHandle_same process source.handles.1
  | lent handles => exact ⟨rfl, fun _ => rfl⟩
  | nothing => exact ⟨rfl, fun _ => rfl⟩

theorem destroySource_same (process : Process Id) (one : Id) (source : Source Id) :
    (process.destroySource one source).sources = Function.update process.sources one none ∧
      ∀ name, ((process.destroySource one source).waitSets name).isSome =
        (process.waitSets name).isSome := by
  unfold destroySource
  dsimp only
  split
  · exact deallocate_same _ source
  · exact ⟨rfl, fun _ => rfl⟩

theorem destroySource_spares {one id : Id} {source : Source Id}
    (found : process.sources one = some source)
    (unheld : id = one → source.references.count .user = 0) :
    Spares id process (process.destroySource one source) := by
  obtain ⟨sources, sets⟩ := destroySource_same process one source
  refine ⟨?_, sets⟩
  by_cases same : id = one
  · subst id
    constructor
    · intro now present
      rw [sources, Function.update_self] at present
      contradiction
    · intro old earlier held
      rw [found] at earlier
      cases earlier
      rw [unheld rfl] at held
      exact absurd held (Nat.lt_irrefl 0)
  · apply Untouched.of_sources
    rw [sources, Function.update_of_ne same]

/-! ### References -/

theorem dropReference_spares {one id : Id} {holder : Holder Id}
    (apart : id = one → holder ≠ .user) : Spares id process (process.dropReference one holder) := by
  unfold dropReference
  cases found : process.sources one with
  | none => exact .refl id process
  | some source =>
      dsimp only
      have others : id = one → (source.references.erase holder).count .user =
          source.references.count .user :=
        fun same => List.count_erase_of_ne (apart same).symm
      split
      · rename_i last
        apply destroySource_spares found
        intro same
        rw [← others same, last, List.count_nil]
      · exact setSource_spares found rfl fun same => others same.symm

theorem leave_spares (process : Process Id) (waitSet one id : Id) :
    Spares id process (process.dropReference one (.waitSet waitSet)) :=
  dropReference_spares fun _ => nofun

theorem addReference_spares {one id : Id} {holder : Holder Id}
    (apart : id = one → holder ≠ .user) : Spares id process (process.addReference one holder) := by
  unfold addReference
  cases found : process.sources one with
  | none => exact .refl id process
  | some source =>
      have others : one = id → (holder :: source.references).count .user =
          source.references.count .user :=
        fun same => List.count_cons_of_ne (apart same.symm)
      exact setSource_spares found rfl others

/-- The user of a source with one reference has none after dropping it. -/
theorem dropReference_last {id : Id} {source now : Source Id}
    (found : process.sources id = some source) (single : source.references.count .user = 1)
    (left : (process.dropReference id .user).sources id = some now) :
    now.maker = source.maker ∧ now.references.count .user = 0 := by
  unfold dropReference at left
  rw [found] at left
  dsimp only at left
  split at left
  · rw [(destroySource_same process id source).1, Function.update_self] at left
    contradiction
  · rw [setSource_sources, Function.update_self] at left
    cases left
    refine ⟨rfl, ?_⟩
    rw [List.count_erase_self, single]

/-! ### Wait sets -/

theorem updateInWaitSetHandle_spares (process : Process Id) (waitSet one id : Id)
    (shouldAdd : Bool) : Spares id process (process.updateInWaitSetHandle waitSet one shouldAdd) := by
  have handles := handles_spares process one id
  unfold updateInWaitSetHandle
  dsimp only
  split
  · rename_i source set found present
    exact handles.trans (setWaitSet_spares present)
  · exact handles

theorem addSource_spares {waitSet one : Id} {after : Process Id}
    (added : process.addSource waitSet one = some after) (id : Id) : Spares id process after := by
  unfold addSource at added
  cases present : process.waitSets waitSet with
  | none =>
      rw [present] at added
      contradiction
  | some set =>
      rw [present] at added
      dsimp only at added
      split at added
      · cases added
        exact .refl id process
      · cases added
        have counted : Spares id process (process.addReference one (.waitSet waitSet)) :=
          addReference_spares fun _ => nofun
        have still : (process.addReference one (.waitSet waitSet)).waitSets waitSet = some set := by
          rw [← present]
          unfold addReference
          split <;> rfl
        exact (counted.trans (setWaitSet_spares still)).trans
          (updateInWaitSetHandle_spares _ waitSet one id true)

theorem removeSource_spares {waitSet one : Id} {after : Process Id}
    (removed : process.removeSource waitSet one = some after) (id : Id) :
    Spares id process after := by
  unfold removeSource at removed
  cases present : process.waitSets waitSet with
  | none =>
      rw [present] at removed
      contradiction
  | some set =>
      rw [present] at removed
      dsimp only at removed
      split at removed
      · cases removed
        have erased : Spares id process
            (process.setWaitSet waitSet { set with sources := set.sources.erase one }) :=
          setWaitSet_spares present
        exact (erased.trans (leave_spares _ waitSet one id)).trans
          (updateInWaitSetHandle_spares _ waitSet one id false)
      · cases removed
        exact .refl id process

/-- The wait set goes, and every source that its user holds stays. -/
theorem destroyWaitSet_spares {waitSet : Id} {after : Process Id}
    (destroyed : process.destroyWaitSet waitSet = some after) (id : Id) :
    Untouched id process after ∧ after.waitSets waitSet = none ∧
      ∀ name, name ≠ waitSet → (after.waitSets name).isSome = (process.waitSets name).isSome := by
  unfold destroyWaitSet at destroyed
  cases present : process.waitSets waitSet with
  | none =>
      rw [present] at destroyed
      contradiction
  | some set =>
      rw [present] at destroyed
      cases destroyed
      let unregistered := set.sources.foldl
        (fun process one => process.updateInWaitSetHandle waitSet one false) process
      have early : Spares id process unregistered :=
        foldl_spares set.sources
          (fun process one _ => updateInWaitSetHandle_spares process waitSet one id false) process
      have closed := early.trans (closeHandle_spares unregistered set.handle id)
      have forgotten : Untouched id (unregistered.closeHandle set.handle)
          (unregistered.closeWaitSet waitSet set) := .of_sources rfl
      have late : Spares id (unregistered.closeWaitSet waitSet set) (set.sources.foldl
          (fun process one => process.dropReference one (.waitSet waitSet))
          (unregistered.closeWaitSet waitSet set)) :=
        foldl_spares set.sources (fun process one _ => leave_spares process waitSet one id) _
      have others : ∀ name, (unregistered.closeWaitSet waitSet set).waitSets name =
          Function.update (unregistered.closeHandle set.handle).waitSets waitSet none name :=
        fun _ => rfl
      refine ⟨closed.toUntouched.trans (forgotten.trans late.toUntouched), ?_, ?_⟩
      · have sets := late.sets waitSet
        rw [others, Function.update_self] at sets
        exact Option.not_isSome_iff_eq_none.mp (ne_true_of_eq_false sets)
      · intro name other
        have sets := late.sets name
        rw [others, Function.update_of_ne other] at sets
        exact sets.trans (closed.sets name)

/-! ### Every step -/

/-- The calls that make an object of this name or change what its user holds. -/
def Names (id : Id) : Action Id → Prop
  | .make one _ => one = id
  | .copy one => one = id
  | .drop one => one = id
  | .createWaitSet one => one = id
  | .destroyWaitSet one => one = id
  | _ => False

theorem step_spares {id : Id} {action : Action Id} {after : Process Id}
    (performed : process.step action = some after) (other : ¬ Names id action) :
    Untouched id process after ∧
      (after.waitSets id).isSome = (process.waitSets id).isSome := by
  have spared : Spares id process after →
      Untouched id process after ∧ (after.waitSets id).isSome = (process.waitSets id).isSome :=
    fun spares => ⟨spares.toUntouched, spares.sets id⟩
  simp only [Process.step, Option.ite_none_left_eq_some] at performed
  obtain ⟨_, performed⟩ := performed
  cases action with
  | make one maker =>
      obtain ⟨_, same⟩ := Option.ite_none_left_eq_some.mp performed
      cases same
      refine ⟨.of_sources ?_, rfl⟩
      exact Function.update_of_ne (Ne.symm other) ..
  | copy one =>
      obtain ⟨_, same⟩ := Option.ite_none_right_eq_some.mp performed
      cases same
      exact spared (addReference_spares fun same => absurd same.symm other)
  | drop one =>
      obtain ⟨_, same⟩ := Option.ite_none_right_eq_some.mp performed
      cases same
      exact spared (dropReference_spares fun same => absurd same.symm other)
  | handles one =>
      obtain ⟨_, same⟩ := Option.ite_none_right_eq_some.mp performed
      cases same
      exact spared (handles_spares process one id)
  | createWaitSet one =>
      obtain ⟨_, same⟩ := Option.ite_none_left_eq_some.mp performed
      cases same
      refine ⟨.of_sources rfl, ?_⟩
      change (Function.update process.waitSets one _ id).isSome = _
      rw [Function.update_of_ne (Ne.symm other)]
  | addSource waitSet one =>
      obtain ⟨_, added⟩ := Option.ite_none_right_eq_some.mp performed
      exact spared (addSource_spares added id)
  | removeSource waitSet one =>
      obtain ⟨_, removed⟩ := Option.ite_none_right_eq_some.mp performed
      exact spared (removeSource_spares removed id)
  | destroyWaitSet waitSet =>
      obtain ⟨untouched, _, others⟩ := destroyWaitSet_spares performed id
      exact ⟨untouched, others id (Ne.symm other)⟩

end Process

end CoreLib.SourceLifetime
