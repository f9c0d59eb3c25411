/-
What sources and wait sets guarantee over whole runs.

Descriptors are balanced, no pointer in the kernel dangles, and `wait` can return exactly
the sources that have been added and not removed.
-/

import CoreLib.SourceLifetimeInvariant

set_option autoImplicit false

namespace CoreLib.SourceLifetime

open Foundation

variable {Id : Type} [DecidableEq Id]

namespace Process

variable {process : Process Id} {opened : List Nat} {actions : List (Action Id)}

theorem inherited_foreign {number : Int} {file : File}
    (found : (inherited opened).find number = some file) : file.serial = none := by
  simp only [inherited, HandleTable.ofNumbers, Option.ite_none_right_eq_some] at found
  rw [← Option.some.inj found.2]
  rfl

theorem invariant_run (performed : run step (start (inherited opened)) actions = some process) :
    Invariant (inherited opened).find False process :=
  run_preserves (fun _ _ _ invariant enabled => (Invariant.step invariant enabled nofun).invariant)
    (invariant_start (inherited opened) nofun) performed

theorem invariant_careful
    (performed : run step (start (inherited opened)) actions = some process)
    (careful : Respects step (Lends (inherited opened).find) (start (inherited opened)) actions) :
    Invariant (inherited opened).find True process := by
  have always : Always step (Invariant (inherited opened).find True) (start (inherited opened))
      actions :=
    always_of_preserved
      (fun _ _ _ invariant lends enabled =>
        (Invariant.step invariant enabled fun _ => lends).invariant)
      (invariant_start (inherited opened) fun _ _ _ => inherited_foreign) careful
  exact always.final performed

/-! ### Descriptors -/

omit [DecidableEq Id] in
/-- The table has what it had at the start and what live objects own. -/
theorem Accounts.find_iff (accounts : Accounts (inherited opened).find process) (number : Int)
    (file : File) : process.table.find number = some file ↔
      (inherited opened).find number = some file ∨ process.Owns number file := by
  constructor
  · intro found
    by_cases listed : (number, file) ∈ process.opened
    · exact Or.inr ((accounts.accounted.owned number file).mpr ⟨listed, found⟩)
    · exact Or.inl ((accounts.accounted.foreign number file listed).mp found)
  · intro either
    rcases either with before | owns
    · refine (accounts.accounted.foreign number file ?_).mpr before
      intro listed
      obtain ⟨serial, _, named⟩ := accounts.serials number file listed
      rw [inherited_foreign before] at named
      contradiction
    · exact accounts.accounted.found owns

omit [DecidableEq Id] in
theorem Accounts.restored (accounts : Accounts (inherited opened).find process)
    (sources : ∀ id, process.sources id = none) (waitSets : ∀ id, process.waitSets id = none) :
    process.table.find = (inherited opened).find := by
  funext number
  apply Option.ext
  intro file
  rw [accounts.find_iff]
  apply or_iff_left
  intro owns
  rcases owns with ⟨id, source, found, _⟩ | ⟨id, set, found, _⟩
  · rw [sources] at found
    contradiction
  · rw [waitSets] at found
    contradiction

/-- Only a refused call that opens a descriptor ends the process: no other CL_CHECK or
CL_ASSERT of a constructor or destructor fails.  What has been opened is closed once and
exactly when its owner is gone, and no other descriptor changes. -/
theorem descriptors_balanced {calls : List (Action Id × Bool)} {final : Attempted (Process Id)}
    (performed : run (attempt step opens) (.begin (start (inherited opened))) calls =
      some final) :
    (final.refused = true ↔ ∃ earlier action reached next, calls = earlier ++ [(action, true)] ∧
        run (attempt step opens) (.begin (start (inherited opened))) earlier =
          some (.begin reached) ∧
        step reached action = some next ∧ opens reached next = true) ∧
      final.state.failed = false ∧
      final.state.opened.Nodup ∧ final.state.closed.Nodup ∧
      (∀ number file, (number, file) ∈ final.state.closed ↔
        (number, file) ∈ final.state.opened ∧ ¬ final.state.Owns number file) ∧
      (∀ number file, final.state.table.find number = some file ↔
        (inherited opened).find number = some file ∨ final.state.Owns number file) ∧
      ((∀ id, final.state.sources id = none) → (∀ id, final.state.waitSets id = none) →
        final.state.table.find = (inherited opened).find) := by
  obtain ⟨taken, _, ran⟩ := attempts_run performed
  have accounts := (invariant_run ran).accounts
  have accounted := accounts.accounted
  refine ⟨refused_iff performed, accounts.running, accounted.acquiredOnce,
    accounted.releasedOnce, ?_, accounts.find_iff, accounts.restored⟩
  intro number file
  rw [accounted.releasedGone, accounted.owned]
  tauto

/-- A timer and a pipe in a wait set that outlives what the user holds of them. -/
def outlived : List (Action Nat) :=
  [.make 0 .AsTimer, .make 1 .AsTrivial, .createWaitSet 9, .addSource 9 0, .addSource 9 1,
    .drop 0, .drop 1]

def refusedAnother : List (Action Nat × Bool) :=
  outlived.map (fun action => (action, false)) ++
    [(.destroyWaitSet 9, false), (.createWaitSet 8, true)]

theorem descriptors_balanced_outlived :
    ∃ final, run (attempt step opens) (.begin (start (inherited [0, 1, 2]))) refusedAnother =
        some final ∧
      final.refused = true ∧ final.state.closed.length = 4 ∧ final.state.closed.Nodup := by
  obtain ⟨final, performed, refused, closed⟩ : ∃ final,
      run (attempt step opens) (.begin (start (inherited [0, 1, 2]))) refusedAnother =
        some final ∧ final.refused = true ∧ final.state.closed.length = 4 :=
    ⟨_, rfl, rfl, rfl⟩
  obtain ⟨_, _, _, once, _⟩ := descriptors_balanced performed
  exact ⟨final, performed, refused, closed, once⟩

/-! ### Pointers in the kernel -/

/-- The pointer that `wait` returns is to a live member, under its own open read handle. -/
theorem Invariant.returned {base : Int → Option File} {exclusive : Prop}
    (invariant : Invariant base exclusive process) {waitSet id : Id} {number : Int}
    (returned : process.wait waitSet number = some id) :
    process.Member waitSet id ∧ number ∈ process.table.numbers ∧
      ∃ source, process.sources id = some source ∧ .waitSet waitSet ∈ source.references ∧
        source.handlesAllocated = true ∧ source.handles.1 = number := by
  obtain ⟨set, present, entry⟩ := Option.bind_eq_some_iff.mp returned
  obtain ⟨opened, member, source, found, ready, named⟩ :=
    invariant.registered.live waitSet set number id present entry
  exact ⟨member, opened, source, found,
    (invariant.references.listed id source found waitSet).mpr member, ready, named⟩

theorem wait_live (performed : run step (start (inherited opened)) actions = some process)
    {waitSet id : Id} {number : Int} (returned : process.wait waitSet number = some id) :
    process.Member waitSet id ∧ number ∈ process.table.numbers ∧
      ∃ source, process.sources id = some source ∧ .waitSet waitSet ∈ source.references ∧
        source.handlesAllocated = true ∧ source.handles.1 = number :=
  (invariant_run performed).returned returned

theorem wait_live_outlived :
    ∃ process : Process Nat, run step (start (inherited [0, 1, 2])) outlived = some process ∧
      process.Member 9 1 ∧ process.userHolds 1 = false := by
  obtain ⟨process, performed, returned, dropped⟩ : ∃ process : Process Nat,
      run step (start (inherited [0, 1, 2])) outlived = some process ∧
        process.wait 9 5 = some 1 ∧ process.userHolds 1 = false := ⟨_, rfl, rfl, rfl⟩
  exact ⟨process, performed, (wait_live performed returned).1, dropped⟩

/-! ### Membership -/

/-- The members that the calls of a run have left. -/
def joined (actions : List (Action Id)) : Id → Id → Prop :=
  actions.foldl membership fun _ _ => False

theorem members_run {members : Id → Id → Prop} {first : Process Id}
    (invariant : Invariant (inherited opened).find False first)
    (same : ∀ waitSet id, first.Member waitSet id ↔ members waitSet id)
    (performed : run step first actions = some process) (waitSet id : Id) :
    process.Member waitSet id ↔ actions.foldl membership members waitSet id := by
  induction actions generalizing first members with
  | nil =>
      cases performed
      exact same waitSet id
  | cons action actions ih =>
      obtain ⟨next, enabled, rest⟩ := run_cons_some performed
      have changes := Invariant.step invariant enabled nofun
      have equal : first.Member = members := by
        funext name one
        exact propext (same name one)
      rw [equal] at changes
      exact ih changes.invariant changes.members rest

theorem joined_iff (performed : run step (start (inherited opened)) actions = some process)
    (waitSet id : Id) : process.Member waitSet id ↔ joined actions waitSet id := by
  apply members_run (invariant_start (inherited opened) nofun) _ performed
  intro name one
  refine iff_of_false ?_ not_false
  intro member
  obtain ⟨set, impossible, _⟩ := member
  contradiction

/-- `wait` can return what has been added and not removed, each under its read handle. -/
theorem wait_exact (performed : run step (start (inherited opened)) actions = some process)
    (careful : Respects step (Lends (inherited opened).find) (start (inherited opened)) actions)
    (waitSet id : Id) (number : Int) :
    process.wait waitSet number = some id ↔
      joined actions waitSet id ∧ number ≠ -1 ∧
        ∃ source, process.sources id = some source ∧ source.handles.1 = number := by
  have invariant := invariant_careful performed careful
  rw [← joined_iff performed]
  constructor
  · intro returned
    obtain ⟨member, opened, source, found, _, _, named⟩ := invariant.returned returned
    have natural := process.table.natural number opened
    exact ⟨member, by omega, source, found, named⟩
  · intro enlisted
    obtain ⟨member, handle, source, found, named⟩ := enlisted
    obtain ⟨set, owner, present, alive, _, entry⟩ :=
      invariant.registered.complete trivial waitSet id member
    rw [found] at alive
    cases alive
    rw [← named] at handle ⊢
    rw [wait, present]
    exact entry handle

omit [DecidableEq Id] in
theorem lends_own {base : Int → Option File} {action : Action Id}
    (own : ∀ id handles, action ≠ .make id (.lent handles)) : Lends base process action := by
  intro id maker made handles lends
  rw [lends] at made
  exact absurd made (own id handles)

def borrowed : List (Action Nat) :=
  [.make 2 (.lent (1, 1)), .make 0 .AsTimer, .make 1 .AsTrivial, .createWaitSet 9,
    .addSource 9 2, .addSource 9 0, .addSource 9 1, .drop 0, .removeSource 9 1]

theorem wait_exact_borrowed :
    ∃ process : Process Nat, run step (start (inherited [0, 1, 2])) borrowed = some process ∧
      process.wait 9 1 = some 2 ∧ ∀ number, process.wait 9 number ≠ some 1 := by
  obtain ⟨process, performed, source, found, handle⟩ : ∃ process : Process Nat,
      run step (start (inherited [0, 1, 2])) borrowed = some process ∧
        ∃ source, process.sources 2 = some source ∧ source.handles.1 = 1 :=
    ⟨_, rfl, _, rfl, rfl⟩
  have careful : Respects step (Lends (inherited [0, 1, 2]).find) (start (inherited [0, 1, 2]))
      borrowed := by
    intro next enabled
    constructor
    · intro id maker made handles lends _
      cases made
      cases lends
      refine ⟨⟨_, rfl⟩, ?_⟩
      intro id source others impossible
      contradiction
    · apply Respects.of_forall
      intro state action member
      apply lends_own
      intro id handles same
      rw [same] at member
      simp at member
  have returns := wait_exact performed careful
  refine ⟨process, performed, ?_, ?_⟩
  · rw [returns]
    exact ⟨by simp [joined, borrowed, membership], by decide, source, found, handle⟩
  · intro number returned
    have added := ((returns 9 1 number).mp returned).1
    simp [joined, borrowed, membership] at added

/-! ### Members -/

omit [DecidableEq Id] in
theorem membership_stays {members : Id → Id → Prop} {action : Action Id} {waitSet id : Id}
    (member : members waitSet id) (kept : .removeSource waitSet id ≠ action)
    (alive : .destroyWaitSet waitSet ≠ action) : membership members action waitSet id := by
  cases action with
  | addSource name one => exact Or.inl member
  | removeSource name one =>
      refine ⟨member, ?_⟩
      intro same
      rw [same.1, same.2] at kept
      exact kept rfl
  | destroyWaitSet name =>
      refine ⟨member, ?_⟩
      intro same
      rw [same] at alive
      exact alive rfl
  | make name maker => exact member
  | copy name => exact member
  | drop name => exact member
  | handles name => exact member
  | createWaitSet name => exact member

theorem survives_from {base : Int → Option File} {before : Process Id}
    (invariant : Invariant base False before) {waitSet id : Id} {old : Source Id}
    (member : before.Member waitSet id) (found : before.sources id = some old)
    (later : run step before actions = some process)
    (kept : .removeSource waitSet id ∉ actions) (alive : .destroyWaitSet waitSet ∉ actions) :
    process.Member waitSet id ∧ ∃ now, process.sources id = some now ∧ Became old now := by
  induction actions generalizing before old with
  | nil =>
      cases later
      exact ⟨member, old, found, .refl old⟩
  | cons action actions ih =>
      obtain ⟨next, enabled, rest⟩ := run_cons_some later
      obtain ⟨other, still⟩ := not_or.mp fun listed => kept (List.mem_cons.mpr listed)
      obtain ⟨others, undestroyed⟩ := not_or.mp fun listed => alive (List.mem_cons.mpr listed)
      have changes := Invariant.step invariant enabled nofun
      have stays := (changes.members waitSet id).mpr (membership_stays member other others)
      obtain ⟨between, here⟩ := changes.invariant.references.alive waitSet id stays
      obtain ⟨remains, now, present, became⟩ :=
        ih changes.invariant stays here rest still undestroyed
      exact ⟨remains, now, present, (changes.sources id old between found here).trans became⟩

/-- Whatever references are dropped, a member stays the object that it is, with the handles
that it has, until it is removed or its wait set goes. -/
theorem member_survives {earlier : List (Action Id)} {before : Process Id}
    (performed : run step (start (inherited opened)) earlier = some before) {waitSet id : Id}
    (member : before.Member waitSet id) (later : run step before actions = some process)
    (kept : .removeSource waitSet id ∉ actions) (alive : .destroyWaitSet waitSet ∉ actions) :
    process.Member waitSet id ∧ ∃ old now, before.sources id = some old ∧
      process.sources id = some now ∧ Became old now := by
  have invariant := invariant_run performed
  obtain ⟨old, found⟩ := invariant.references.alive waitSet id member
  obtain ⟨remains, now, present, became⟩ := survives_from invariant member found later kept alive
  exact ⟨remains, old, now, found, present, became⟩

theorem member_survives_outlived :
    ∃ process : Process Nat, run step (start (inherited [0, 1, 2])) outlived = some process ∧
      process.Member 9 1 ∧ ∃ now, process.sources 1 = some now ∧ now.handles = (5, 6) := by
  obtain ⟨before, performed, set, present, listed, source, found, handles, ready, process, later⟩ :
      ∃ before : Process Nat,
        run step (start (inherited [0, 1, 2])) (outlived.take 5) = some before ∧
        ∃ set, before.waitSets 9 = some set ∧ 1 ∈ set.sources ∧
        ∃ source, before.sources 1 = some source ∧ source.handles = (5, 6) ∧
        source.handlesAllocated = true ∧
        ∃ process, run step before [.drop 0, .drop 1] = some process :=
    ⟨_, rfl, _, rfl, List.mem_cons_self .., _, rfl, rfl, rfl, _, rfl⟩
  obtain ⟨member, old, now, here, there, became⟩ :=
    member_survives performed ⟨set, present, listed⟩ later (by simp) (by simp)
  rw [found] at here
  cases here
  exact ⟨process, run_trans performed later, member, now, there,
    (became.handles ready).2.trans handles⟩

end Process

end CoreLib.SourceLifetime
