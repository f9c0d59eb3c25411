/-
What the loopers of threads own and wake.

Each call on a looper is a run of calls on sources and wait sets, so what holds of those
runs holds of every interleaving of the threads.  A looper's wait set and trivial source are
touched only by its own thread, and go with it.
-/

import CoreLib.LooperThreads
import CoreLib.SourceLifetimeGuarantees
import CoreLib.SourceLifetimeHolders

set_option autoImplicit false

namespace CoreLib.LooperThreads

open Foundation
open SourceLifetime (Process File)
open SourceLifetime.Process (Invariant Member Names Untouched inherited)

variable {Thread Id : Type} [DecidableEq Thread] [DecidableEq Id]

/-! ### What a thread has -/

def Absent (process : Process (Name Thread Id)) (thread : Thread) : Prop :=
  process.sources (.looper thread) = none ∧ process.waitSets (.looper thread) = none

/-- The trivial source is in the wait set of its own looper only, and the looper has the one
other reference to it. -/
structure Present (process : Process (Name Thread Id)) (thread : Thread)
    (trivialSource : TrivialSource) : Prop where
  set : (process.waitSets (.looper thread)).isSome = true
  member : ∀ name, process.Member name (.looper thread) ↔
    trivialSource = .added ∧ name = .looper thread
  without : trivialSource = .absent → process.sources (.looper thread) = none
  source : trivialSource ≠ .absent → ∃ source, process.sources (.looper thread) = some source ∧
    source.maker = .AsTrivial ∧ source.references.count .user = 1

def Kept (process : Process (Name Thread Id)) (thread : Thread) : Option Looper → Prop
  | none => Absent process thread
  | some looper => Present process thread looper.trivialSource

/-- The call neither names the thread's looper nor moves its trivial source. -/
def Foreign (thread : Thread) (call : Call Thread Id) : Prop :=
  ¬ Names (.looper thread) call ∧ ∀ waitSet, call ≠ .addSource waitSet (.looper thread) ∧
    call ≠ .removeSource waitSet (.looper thread)

section Steps

variable {base : Int → Option File} {exclusive : Prop} {process after : Process (Name Thread Id)}
  {thread : Thread} {call : Call Thread Id}

omit [DecidableEq Thread] [DecidableEq Id] in
theorem foreign_member (foreign : Foreign thread call)
    {members : Name Thread Id → Name Thread Id → Prop} {added : Prop}
    (own : ∀ name, members name (.looper thread) ↔ added ∧ name = .looper thread)
    (name : Name Thread Id) :
    SourceLifetime.Process.membership members call name (.looper thread) ↔
      added ∧ name = .looper thread := by
  obtain ⟨unnamed, unmoved⟩ := foreign
  cases call with
  | addSource waitSet one =>
      change members name (.looper thread) ∨ (name = waitSet ∧ .looper thread = one) ↔ _
      rw [own]
      apply or_iff_left
      intro both
      rw [← both.2] at unmoved
      exact (unmoved waitSet).1 rfl
  | removeSource waitSet one =>
      change members name (.looper thread) ∧ ¬ (name = waitSet ∧ .looper thread = one) ↔ _
      rw [own]
      apply and_iff_left
      intro both
      rw [← both.2] at unmoved
      exact (unmoved waitSet).2 rfl
  | destroyWaitSet waitSet =>
      change members name (.looper thread) ∧ name ≠ waitSet ↔ _
      rw [own]
      apply and_iff_left_of_imp
      intro both same
      rw [both.2] at same
      exact unnamed same.symm
  | make one maker => exact own name
  | copy one => exact own name
  | drop one => exact own name
  | handles one => exact own name
  | createWaitSet one => exact own name

theorem Kept.foreign {looper : Option Looper} (kept : Kept process thread looper)
    (invariant : Invariant base exclusive process)
    (performed : process.step call = some after)
    (careful : exclusive → SourceLifetime.Process.Lends base process call)
    (foreign : Foreign thread call) : Kept after thread looper := by
  obtain ⟨untouched, sets⟩ := SourceLifetime.Process.step_spares performed foreign.1
  have changes := Invariant.step invariant performed careful
  have nobody : process.sources (.looper thread) = none →
      after.sources (.looper thread) = none := by
    intro absent
    cases found : after.sources (.looper thread) with
    | none => rfl
    | some now =>
        obtain ⟨old, earlier, _⟩ := untouched.back now found
        rw [absent] at earlier
        contradiction
  cases looper with
  | none =>
      refine ⟨nobody kept.1, ?_⟩
      rw [kept.2] at sets
      exact Option.not_isSome_iff_eq_none.mp (ne_true_of_eq_false sets)
  | some looper =>
      constructor
      · rw [sets]
        exact kept.set
      · intro name
        rw [changes.members]
        exact foreign_member foreign kept.member name
      · exact fun without => nobody (kept.without without)
      · intro has
        obtain ⟨old, earlier, maker, count⟩ := kept.source has
        obtain ⟨now, found⟩ := untouched.forth old earlier (by omega)
        obtain ⟨same, here, makers, counts⟩ := untouched.back now found
        rw [earlier] at here
        cases here
        exact ⟨now, found, makers.trans maker, counts.trans count⟩

def Lendless (calls : List (Call Thread Id)) : Prop :=
  ∀ call ∈ calls, ∀ id handles, call ≠ .make id (.lent handles)

theorem calls_invariant {calls : List (Call Thread Id)} (lendless : Lendless calls)
    (invariant : Invariant base exclusive process)
    (performed : run Process.step process calls = some after) :
    Invariant base exclusive after := by
  induction calls generalizing process with
  | nil =>
      cases performed
      exact invariant
  | cons call calls ih =>
      obtain ⟨next, enabled, rest⟩ := run_cons_some performed
      apply ih (fun other member => lendless other (List.mem_cons_of_mem _ member)) _ rest
      refine (Invariant.step invariant enabled fun _ => ?_).invariant
      exact SourceLifetime.Process.lends_own (lendless call (List.mem_cons_self ..))

theorem Kept.calls {looper : Option Looper} {calls : List (Call Thread Id)}
    (kept : Kept process thread looper) (lendless : Lendless calls)
    (invariant : Invariant base exclusive process)
    (performed : run Process.step process calls = some after)
    (foreign : ∀ call ∈ calls, Foreign thread call) : Kept after thread looper := by
  induction calls generalizing process with
  | nil =>
      cases performed
      exact kept
  | cons call calls ih =>
      obtain ⟨next, enabled, rest⟩ := run_cons_some performed
      have careful : exclusive → SourceLifetime.Process.Lends base process call :=
        fun _ => SourceLifetime.Process.lends_own (lendless call (List.mem_cons_self ..))
      exact ih (kept.foreign invariant enabled careful (foreign call (List.mem_cons_self ..)))
        (fun other member => lendless other (List.mem_cons_of_mem _ member))
        (Invariant.step invariant enabled careful).invariant rest
        fun other member => foreign other (List.mem_cons_of_mem _ member)

/-! ### What its own thread does -/

theorem Absent.current (absent : Absent process thread)
    (invariant : Invariant base exclusive process)
    (performed : process.step (.createWaitSet (.looper thread)) = some after) :
    Present after thread .absent := by
  have changes := Invariant.step invariant performed fun _ =>
    SourceLifetime.Process.lends_own fun _ _ => nofun
  simp only [Process.step, Option.ite_none_left_eq_some] at performed
  obtain ⟨_, _, same⟩ := performed
  cases same
  constructor
  · change (Function.update process.waitSets (.looper thread) _ (.looper thread)).isSome = true
    rw [Function.update_self]
    rfl
  · intro name
    refine iff_of_false ?_ fun both => absurd both.1 (by decide)
    intro member
    obtain ⟨source, found⟩ := changes.invariant.references.alive name _ member
    change process.sources (.looper thread) = some source at found
    rw [absent.1] at found
    contradiction
  · intro _
    exact absent.1
  · intro impossible
    contradiction

/-- The trivial source is made, and is in no wait set yet. -/
theorem Present.loop (present : Present process thread .absent)
    (invariant : Invariant base exclusive process)
    (performed : process.step (.make (.looper thread) .AsTrivial) = some after) :
    Present after thread .made := by
  have changes := Invariant.step invariant performed fun _ =>
    SourceLifetime.Process.lends_own fun _ _ => nofun
  simp only [Process.step, Option.ite_none_left_eq_some] at performed
  obtain ⟨_, _, same⟩ := performed
  cases same
  constructor
  · exact present.set
  · intro name
    rw [changes.members]
    change process.Member name (.looper thread) ↔ _
    rw [present.member]
    exact and_congr_left fun _ => iff_of_false (by decide) (by decide)
  · intro impossible
    contradiction
  · intro _
    exact ⟨.fresh process.nextSerial .AsTrivial, Function.update_self .., rfl, rfl⟩

theorem Present.addTrivialSource (present : Present process thread .made)
    (invariant : Invariant base exclusive process)
    (performed : process.step (.addSource (.looper thread) (.looper thread)) = some after) :
    Present after thread .added := by
  have changes := Invariant.step invariant performed fun _ =>
    SourceLifetime.Process.lends_own fun _ _ => nofun
  have unnamed : ¬ Names (.looper thread)
      (.addSource (.looper thread) (.looper thread) : Call Thread Id) := not_false
  obtain ⟨untouched, sets⟩ := SourceLifetime.Process.step_spares performed unnamed
  constructor
  · rw [sets]
    exact present.set
  · intro name
    rw [changes.members]
    change process.Member name (.looper thread) ∨ (name = .looper thread ∧ _) ↔ _
    have nowhere : ¬ process.Member name (.looper thread) := by
      rw [present.member]
      exact fun both => absurd both.1 (by decide)
    tauto
  · intro impossible
    contradiction
  · intro _
    obtain ⟨old, earlier, maker, count⟩ := present.source (by decide)
    obtain ⟨now, found⟩ := untouched.forth old earlier (by omega)
    obtain ⟨same, here, makers, counts⟩ := untouched.back now found
    rw [earlier] at here
    cases here
    exact ⟨now, found, makers.trans maker, counts.trans count⟩

/-- With its wait set goes a source that nobody else holds. -/
private theorem absent_destroyed (invariant : Invariant base exclusive process)
    (unheld : ∀ now, process.sources (.looper thread) = some now →
      now.references.count .user = 0)
    (own : ∀ name, process.Member name (.looper thread) → name = .looper thread)
    (performed : process.step (.destroyWaitSet (.looper thread)) = some after) :
    Absent after thread := by
  have changes := Invariant.step invariant performed fun _ =>
    SourceLifetime.Process.lends_own fun _ _ => nofun
  simp only [Process.step, Option.ite_none_left_eq_some] at performed
  obtain ⟨untouched, gone, _⟩ :=
    SourceLifetime.Process.destroyWaitSet_spares performed.2 (.looper thread)
  refine ⟨?_, gone⟩
  cases found : after.sources (.looper thread) with
  | none => rfl
  | some now =>
      obtain ⟨old, earlier, _, count⟩ := untouched.back now found
      rw [unheld old earlier] at count
      have references := changes.invariant.references
      obtain ⟨holder, listed⟩ :=
        List.exists_mem_of_ne_nil _ (references.held _ now found)
      cases holder with
      | user => exact absurd listed (List.count_eq_zero.mp count)
      | waitSet name =>
          have member :=
            (changes.members name _).mp ((references.listed _ now found name).mp listed)
          exact absurd (own name member.1) member.2

omit [DecidableEq Thread] [DecidableEq Id] in
private theorem lends_drop {name : Name Thread Id} :
    SourceLifetime.Process.Lends base process (.drop name) := by
  apply SourceLifetime.Process.lends_own
  intro id handles impossible
  contradiction

theorem Present.destroy {looper : Looper} {calls : List (Call Thread Id)}
    (present : Present process thread looper.trivialSource)
    (invariant : Invariant base exclusive process) (made : looper.destroy thread = some calls)
    (performed : run Process.step process calls = some after) : Absent after thread := by
  unfold Looper.destroy at made
  cases has : looper.trivialSource with
  | made =>
      rw [has] at made
      contradiction
  | absent =>
      rw [has] at present made
      cases made
      obtain ⟨final, destroyed, last⟩ := run_cons_some performed
      cases last
      apply absent_destroyed invariant _ _ destroyed
      · intro now found
        rw [present.without rfl] at found
        contradiction
      · intro name member
        exact ((present.member name).mp member).2
  | added =>
      rw [has] at present made
      cases made
      obtain ⟨dropped, dropping, rest⟩ := run_cons_some performed
      obtain ⟨final, destroyed, last⟩ := run_cons_some rest
      cases last
      have changes := Invariant.step invariant dropping fun _ => lends_drop
      apply absent_destroyed changes.invariant _ _ destroyed
      · intro now found
        obtain ⟨source, here, _, single⟩ := present.source (by decide)
        simp only [Process.step, Option.ite_none_left_eq_some,
          Option.ite_none_right_eq_some] at dropping
        obtain ⟨_, _, same⟩ := dropping
        cases same
        exact (SourceLifetime.Process.dropReference_last here single found).2
      · intro name member
        rw [changes.members] at member
        exact ((present.member name).mp member).2

/-- The destructor can run when the thread is not in its first `loop`. -/
theorem Present.destroys {looper : Looper} (present : Present process thread looper.trivialSource)
    (outside : looper.trivialSource ≠ .made) (invariant : Invariant base exclusive process) :
    ∃ calls, looper.destroy thread = some calls ∧
      ∃ after, run Process.step process calls = some after := by
  have destroys : ∀ now : Process (Name Thread Id), now.failed = false →
      (now.waitSets (.looper thread)).isSome = true →
      ∃ after, now.step (.destroyWaitSet (.looper thread)) = some after := by
    intro now running set
    obtain ⟨set, found⟩ := Option.isSome_iff_exists.mp set
    simp only [Process.step, running, Process.destroyWaitSet, found]
    exact ⟨_, rfl⟩
  unfold Looper.destroy
  cases has : looper.trivialSource with
  | made => exact absurd has outside
  | absent =>
      obtain ⟨after, destroyed⟩ := destroys process invariant.accounts.running present.set
      exact ⟨_, rfl, after, run_one destroyed⟩
  | added =>
      rw [has] at present
      obtain ⟨source, found, _, single⟩ := present.source (by decide)
      have holds : process.userHolds (.looper thread) = true := by
        apply SourceLifetime.Process.userHolds_iff.mpr
        exact ⟨source, found, List.count_pos_iff.mp (by omega)⟩
      have dropping : process.step (.drop (.looper thread)) =
          some (process.dropReference (.looper thread) .user) := by
        simp only [Process.step, invariant.accounts.running, holds]
        rfl
      have changes := Invariant.step invariant dropping fun _ => lends_drop
      obtain ⟨set, there, _⟩ := (changes.members (.looper thread) (.looper thread)).mpr
        ((present.member (.looper thread)).mpr ⟨rfl, rfl⟩)
      obtain ⟨after, destroyed⟩ := destroys _ changes.invariant.accounts.running
        (Option.isSome_iff_exists.mpr ⟨set, there⟩)
      refine ⟨_, rfl, after, ?_⟩
      rw [run_cons, dropping]
      exact run_one destroyed

end Steps

/-! ### Every step -/

structure Sound (base : Int → Option File) (exclusive : Prop) (state : State Thread Id) :
    Prop where
  invariant : Invariant base exclusive state.process
  kept : ∀ thread, Kept state.process thread (state.loopers thread)

/-- What the user lends are open descriptors of others, each to one live source. -/
def Lends (base : Int → Option File) (state : State Thread Id) : Action Thread Id → Prop
  | .user call => SourceLifetime.Process.Lends base state.process (ofUser call)
  | _ => True

omit [DecidableEq Thread] [DecidableEq Id] in
theorem lends_lendless {base : Int → Option File} {state : State Thread Id}
    {action : Action Thread Id}
    (lendless : ∀ id handles, action ≠ .user (.make id (.lent handles))) :
    Lends base state action := by
  cases action with
  | user call =>
      apply SourceLifetime.Process.lends_own
      intro name handles same
      cases call with
      | make id maker =>
          cases same
          exact lendless id handles rfl
      | _ => cases same
  | _ => exact trivial

section State

variable {base : Int → Option File} {exclusive : Prop} {state next : State Thread Id}
  {thread : Thread}

theorem start_sound (table : HandleTable File)
    (foreign : exclusive → ∀ number file, table.find number = some file → file.serial = none) :
    Sound table.find exclusive (start table : State Thread Id) :=
  ⟨SourceLifetime.Process.invariant_start table foreign, fun _ => ⟨rfl, rfl⟩⟩

omit [DecidableEq Thread] [DecidableEq Id] in
theorem ofUser_foreign (thread : Thread) (call : SourceLifetime.Action Id) :
    Foreign thread (ofUser call) := by
  cases call <;> simp [Foreign, ofUser, Names]

/-- The calls lend nothing and leave the loopers of other threads alone. -/
structure Own (thread : Thread) (calls : List (Call Thread Id)) : Prop where
  lendless : Lendless calls
  foreign : ∀ other, other ≠ thread → ∀ call ∈ calls, Foreign other call

theorem Sound.own (sound : Sound base exclusive state) {calls : List (Call Thread Id)}
    {process : Process (Name Thread Id)} (own : Own thread calls)
    (performed : run Process.step state.process calls = some process) {looper : Option Looper}
    (kept : Kept process thread looper) :
    Sound base exclusive
      { process := process
        loopers := Function.update state.loopers thread looper } := by
  refine ⟨calls_invariant own.lendless sound.invariant performed, fun other => ?_⟩
  by_cases same : other = thread
  · subst other
    dsimp only
    rw [Function.update_self]
    exact kept
  · dsimp only
    rw [Function.update_of_ne same]
    exact (sound.kept other).calls own.lendless sound.invariant performed (own.foreign other same)

theorem Sound.touching (sound : Sound base exclusive state) {calls : List (Call Thread Id)}
    {process : Process (Name Thread Id)} (lendless : Lendless calls)
    (foreign : ∀ thread, ∀ call ∈ calls, Foreign thread call)
    (performed : run Process.step state.process calls = some process) :
    Sound base exclusive
      { process := process
        loopers := state.loopers } :=
  ⟨calls_invariant lendless sound.invariant performed, fun thread =>
    (sound.kept thread).calls lendless sound.invariant performed (foreign thread)⟩

/-- The calls that a thread makes for its looper. -/
def ownCalls (thread : Thread) : List (Call Thread Id) :=
  [.createWaitSet (.looper thread), .make (.looper thread) .AsTrivial,
    .addSource (.looper thread) (.looper thread), .drop (.looper thread),
    .destroyWaitSet (.looper thread)]

omit [DecidableEq Thread] [DecidableEq Id] in
theorem own_of_subset {calls : List (Call Thread Id)} (among : calls ⊆ ownCalls thread) :
    Own thread calls := by
  constructor
  · intro call member id handles same
    have listed := among member
    rw [same] at listed
    simp [ownCalls] at listed
  · intro other apart call member
    have listed := among member
    simp only [ownCalls, List.mem_cons, List.not_mem_nil, or_false] at listed
    rcases listed with same | same | same | same | same <;>
      simp [same, Foreign, Names, Ne.symm apart]

omit [DecidableEq Thread] [DecidableEq Id] in
theorem destroy_subset {looper : Looper} {calls : List (Call Thread Id)}
    (made : looper.destroy thread = some calls) : calls ⊆ ownCalls thread := by
  unfold Looper.destroy at made
  cases has : looper.trivialSource with
  | absent =>
      rw [has] at made
      cases made
      simp [ownCalls]
  | made =>
      rw [has] at made
      contradiction
  | added =>
      rw [has] at made
      cases made
      simp [ownCalls]

theorem Sound.Current (sound : Sound base exclusive state) {calls : List (Call Thread Id)}
    {process : Process (Name Thread Id)} (made : state.calls (.Current thread) = some calls)
    (performed : run Process.step state.process calls = some process) :
    Sound base exclusive
      { process := process
        loopers := state.loopersAfter (.Current thread : Action Thread Id) } := by
  simp only [State.calls] at made
  simp only [State.loopersAfter]
  cases present : state.loopers thread with
  | some looper =>
      rw [present] at made
      cases made
      cases performed
      rw [Option.getD_some, Function.update_eq_self_iff.mpr present.symm]
      exact sound
  | none =>
      rw [present] at made
      cases made
      have absent := sound.kept thread
      rw [present] at absent
      obtain ⟨final, enabled, last⟩ := run_cons_some performed
      cases last
      have kept : Kept process thread (some { trivialSource := .absent }) :=
        Absent.current absent sound.invariant enabled
      exact sound.own (own_of_subset (by simp [ownCalls])) performed kept

theorem Sound.loop (sound : Sound base exclusive state) {calls : List (Call Thread Id)}
    {process : Process (Name Thread Id)} (made : state.calls (.loop thread) = some calls)
    (performed : run Process.step state.process calls = some process) :
    Sound base exclusive
      { process := process
        loopers := state.loopersAfter (.loop thread : Action Thread Id) } := by
  obtain ⟨looper, present, begins⟩ := Option.bind_eq_some_iff.mp made
  have kept := sound.kept thread
  rw [present] at kept
  change Present _ _ _ at kept
  unfold Looper.loop at begins
  simp only [State.loopersAfter, present, Option.map_some, Looper.entered]
  cases has : looper.trivialSource with
  | absent =>
      rw [has] at kept begins
      cases begins
      obtain ⟨final, making, last⟩ := run_cons_some performed
      cases last
      have inside : Kept process thread (some { trivialSource := .made }) :=
        kept.loop sound.invariant making
      exact sound.own (own_of_subset (by simp [ownCalls])) performed inside
  | made =>
      rw [has] at begins
      contradiction
  | added =>
      rw [has] at begins
      cases begins
      cases performed
      exact sound.own (own_of_subset (List.nil_subset _)) rfl kept

theorem Sound.addTrivialSource (sound : Sound base exclusive state)
    {calls : List (Call Thread Id)} {process : Process (Name Thread Id)}
    (made : state.calls (.addTrivialSource thread) = some calls)
    (performed : run Process.step state.process calls = some process) :
    Sound base exclusive
      { process := process
        loopers := state.loopersAfter (.addTrivialSource thread : Action Thread Id) } := by
  obtain ⟨looper, present, adds⟩ := Option.bind_eq_some_iff.mp made
  obtain ⟨has, same⟩ := Option.ite_none_right_eq_some.mp adds
  cases same
  have kept := sound.kept thread
  rw [present] at kept
  change Present _ _ _ at kept
  rw [has] at kept
  obtain ⟨final, adding, last⟩ := run_cons_some performed
  cases last
  have added : Kept process thread (some { trivialSource := .added }) :=
    kept.addTrivialSource sound.invariant adding
  exact sound.own (own_of_subset (by simp [ownCalls])) performed added

theorem Sound.exit (sound : Sound base exclusive state) {calls : List (Call Thread Id)}
    {process : Process (Name Thread Id)} (made : state.calls (.exit thread) = some calls)
    (performed : run Process.step state.process calls = some process) :
    Sound base exclusive
      { process := process
        loopers := state.loopersAfter (.exit thread : Action Thread Id) } := by
  simp only [State.calls] at made
  have kept := sound.kept thread
  cases present : state.loopers thread with
  | none =>
      rw [present] at made kept
      cases made
      cases performed
      exact sound.own (own_of_subset (List.nil_subset _)) rfl kept
  | some looper =>
      rw [present] at made kept
      have absent : Kept process thread none :=
        Present.destroy kept sound.invariant made performed
      exact sound.own (own_of_subset (destroy_subset made)) performed absent

theorem Sound.step {action : Action Thread Id} (sound : Sound base exclusive state)
    (apart : ∀ thread, action ≠ .terminateWhileAdding thread)
    (careful : exclusive → Lends base state action)
    (enabled : LooperThreads.step state action = some next) : Sound base exclusive next := by
  obtain ⟨calls, made, rest⟩ := Option.bind_eq_some_iff.mp enabled
  obtain ⟨process, performed, same⟩ := Option.map_eq_some_iff.mp rest
  subst next
  cases action with
  | user call =>
      cases made
      obtain ⟨final, enabled, last⟩ := run_cons_some performed
      cases last
      refine ⟨(Invariant.step sound.invariant enabled careful).invariant, fun thread => ?_⟩
      exact (sound.kept thread).foreign sound.invariant enabled careful (ofUser_foreign thread call)
  | Current thread => exact sound.Current made performed
  | addSource thread id =>
      obtain ⟨looper, present, same⟩ := Option.map_eq_some_iff.mp made
      subst calls
      refine sound.touching ?_ ?_ performed
      · simp [Lendless]
      · simp [Foreign, Names]
  | removeSource thread id =>
      obtain ⟨looper, present, same⟩ := Option.map_eq_some_iff.mp made
      subst calls
      refine sound.touching ?_ ?_ performed
      · simp [Lendless]
      · simp [Foreign, Names]
  | loop thread => exact sound.loop made performed
  | addTrivialSource thread => exact sound.addTrivialSource made performed
  | terminate thread =>
      obtain ⟨looper, present, wakes⟩ := Option.bind_eq_some_iff.mp made
      obtain ⟨has, same⟩ := Option.ite_none_left_eq_some.mp wakes
      cases same
      refine sound.touching ?_ ?_ performed
      · simp [Lendless]
      · simp [Foreign, Names]
  | terminateWhileAdding thread => exact absurd rfl (apart thread)
  | exit thread => exact sound.exit made performed

end State

/-! ### Whole runs -/

section Runs

variable {opened : List Nat} {actions : List (Action Thread Id)} {state : State Thread Id}

theorem apart_forall
    (apart : ∀ thread, .terminateWhileAdding thread ∉ actions) (start : State Thread Id) :
    Respects step (fun _ action => ∀ thread, action ≠ .terminateWhileAdding thread) start
      actions := by
  apply Respects.of_forall
  intro before action member thread same
  rw [same] at member
  exact apart thread member

theorem sound_run (performed : run step (start (inherited opened)) actions = some state)
    (apart : ∀ thread, .terminateWhileAdding thread ∉ actions) :
    Sound (inherited opened).find False state := by
  have always : Always step (Sound (inherited opened).find False)
      (start (inherited opened) : State Thread Id) actions :=
    always_of_preserved (fun _ _ _ sound apart enabled => sound.step apart nofun enabled)
      (start_sound (inherited opened) nofun) (apart_forall apart _)
  exact always.final performed

theorem sound_careful (performed : run step (start (inherited opened)) actions = some state)
    (apart : ∀ thread, .terminateWhileAdding thread ∉ actions)
    (careful : Respects step (Lends (inherited opened).find) (start (inherited opened)) actions) :
    Sound (inherited opened).find True state := by
  have always : Always step (Sound (inherited opened).find True)
      (start (inherited opened) : State Thread Id) actions :=
    always_of_preserved
      (fun _ _ _ sound both enabled => sound.step both.1 (fun _ => both.2) enabled)
      (start_sound (inherited opened) fun _ _ _ => SourceLifetime.Process.inherited_foreign)
      ((apart_forall apart _).and careful)
  exact always.final performed

/-- In every interleaving in which no `terminate` overlaps the first `addSource`, only a
refused call that opens a descriptor ends the process.  A thread without a looper has
nothing, the destructor could always run, and when all loopers and all that the users made
are gone, the table is what it was. -/
theorem threads_balanced {calls : List (Action Thread Id × Bool)}
    {final : Attempted (State Thread Id)}
    (performed : run (attempt step opens) (.begin (start (inherited opened))) calls =
      some final)
    (apart : ∀ thread, .terminateWhileAdding thread ∉ calls.map Prod.fst) :
    (final.refused = true ↔ ∃ earlier action reached next, calls = earlier ++ [(action, true)] ∧
        run (attempt step opens) (.begin (start (inherited opened))) earlier =
          some (.begin reached) ∧
        step reached action = some next ∧ opens reached next = true) ∧
      final.state.process.failed = false ∧
      (∀ thread, final.state.loopers thread = none →
        final.state.process.sources (.looper thread) = none ∧
          final.state.process.waitSets (.looper thread) = none) ∧
      (∀ thread, final.state.loopers thread ≠ some { trivialSource := .made } →
        ∃ next, step final.state (.exit thread) = some next) ∧
      ((∀ thread, final.state.loopers thread = none) →
        (∀ id, final.state.process.sources (.user id) = none) →
        (∀ id, final.state.process.waitSets (.user id) = none) →
        final.state.process.table.find = (inherited opened).find) := by
  obtain ⟨taken, begins, ran⟩ := attempts_run performed
  have sound := sound_run ran fun thread member => apart thread (begins.subset member)
  have gone : ∀ thread, final.state.loopers thread = none →
      final.state.process.sources (.looper thread) = none ∧
        final.state.process.waitSets (.looper thread) = none := by
    intro thread absent
    have kept := sound.kept thread
    rw [absent] at kept
    exact kept
  refine ⟨refused_iff performed, sound.invariant.accounts.running, gone, ?_, ?_⟩
  · intro thread outside
    unfold step
    cases present : final.state.loopers thread with
    | none =>
        simp only [State.calls, present]
        exact ⟨_, rfl⟩
    | some looper =>
        have kept := sound.kept thread
        rw [present] at kept outside
        have elsewhere : looper.trivialSource ≠ .made := by
          intro inside
          exact outside (congrArg some (congrArg Looper.mk inside))
        obtain ⟨calls, made, after, destroyed⟩ :=
          Present.destroys kept elsewhere sound.invariant
        simp only [State.calls, present, made, Option.bind_some, destroyed]
        exact ⟨_, rfl⟩
  · intro loopers sources waitSets
    apply sound.invariant.accounts.restored
    · intro name
      cases name with
      | looper thread => exact (gone thread (loopers thread)).1
      | user id => exact sources id
    · intro name
      cases name with
      | looper thread => exact (gone thread (loopers thread)).2
      | user id => exact waitSets id

/-- Two threads, of which the second ends while the first goes on. -/
def twoThreads : List (Action Bool Nat) :=
  [.Current true, .Current false, .loop true, .loop false, .addTrivialSource false,
    .terminate true, .addTrivialSource true, .user (.make 0 .AsTimer), .addSource false 0,
    .user (.drop 0), .exit false]

def refusedThird : List (Action Bool Nat × Bool) :=
  twoThreads.map (fun action => (action, false)) ++ [(.exit true, false), (.Current true, true)]

theorem threads_balanced_twoThreads :
    ∃ final, run (attempt step opens) (.begin (start (inherited [0, 1, 2]))) refusedThird =
        some final ∧
      final.refused = true ∧ final.state.process.closed.length = 7 ∧
      final.state.process.table.find = (inherited [0, 1, 2]).find := by
  obtain ⟨final, performed, refused, closed, loopers, sources, waitSets⟩ :
      ∃ final, run (attempt step opens) (.begin (start (inherited [0, 1, 2]))) refusedThird =
          some final ∧ final.refused = true ∧ final.state.process.closed.length = 7 ∧
        (∀ thread, final.state.loopers thread = none) ∧
        (∀ id, final.state.process.sources (.user id) = none) ∧
        ∀ id, final.state.process.waitSets (.user id) = none := by
    refine ⟨_, rfl, rfl, rfl, by decide, ?_, fun id => rfl⟩
    intro id
    cases id with
    | zero => rfl
    | succ id => rfl
  have apart : ∀ thread, .terminateWhileAdding thread ∉ refusedThird.map Prod.fst := by
    simp [refusedThird, twoThreads]
  obtain ⟨_, _, _, _, balanced⟩ := threads_balanced performed apart
  exact ⟨final, performed, refused, closed, balanced loopers sources waitSets⟩

/-- Once the first `loop` of a thread has added its trivial source, that is a pipe whose read
end its own wait set waits for, and no other wait set can return for that pipe: a byte
written by `terminate` wakes the looper that it is meant for and no other. -/
theorem wakes_own_looper
    (performed : run step (start (inherited opened)) actions = some state)
    (apart : ∀ thread, .terminateWhileAdding thread ∉ actions)
    (careful : Respects step (Lends (inherited opened).find) (start (inherited opened)) actions)
    {thread : Thread} (looping : state.loopers thread = some { trivialSource := .added }) :
    ∃ source, state.process.sources (.looper thread) = some source ∧
      state.process.table.find source.handles.1 = some (.pipe source.serial false) ∧
      state.process.table.find source.handles.2 = some (.pipe source.serial true) ∧
      state.process.wait (.looper thread) source.handles.1 = some (.looper thread) ∧
      ∀ waitSet number id,
        state.process.table.find number = some (.pipe source.serial false) →
        state.process.wait waitSet number = some id →
          waitSet = .looper thread ∧ id = .looper thread := by
  have sound := sound_careful performed apart careful
  have invariant := sound.invariant
  have kept := sound.kept thread
  rw [looping] at kept
  obtain ⟨source, found, maker, _⟩ := kept.source (by decide)
  obtain ⟨set, same, present, alive, ready, entry⟩ :=
    invariant.registered.complete trivial (.looper thread) (.looper thread)
      ((kept.member _).mpr ⟨rfl, rfl⟩)
  rw [found] at alive
  cases alive
  have owned : source.owned = [(source.handles.1, .pipe source.serial false),
      (source.handles.2, .pipe source.serial true)] := by
    simp [SourceLifetime.Source.owned, ready, maker]
  have owns : ∀ file ∈ source.owned, state.process.table.find file.1 = some file.2 := by
    intro file member
    exact invariant.accounts.accounted.found (Or.inl ⟨.looper thread, source, found, member⟩)
  rw [owned] at owns
  have reads := owns (source.handles.1, .pipe source.serial false) (List.mem_cons_self ..)
  have writes := owns (source.handles.2, .pipe source.serial true)
    (List.mem_cons_of_mem _ (List.mem_cons_self ..))
  refine ⟨source, found, reads, writes, ?_, ?_⟩
  · rw [Process.wait, present]
    apply entry
    intro negative
    have natural := state.process.table.find_nonneg reads
    dsimp only at natural
    omega
  · intro waitSet number id here returned
    obtain ⟨other, there, listed⟩ := Option.bind_eq_some_iff.mp returned
    obtain ⟨_, member, reader, known, allocated, named⟩ :=
      invariant.registered.live waitSet other number id there listed
    have natural := state.process.table.find_nonneg here
    rw [← named] at here natural
    obtain ⟨file, read, mine⟩ := (invariant.registered.lent trivial).reads invariant.accounts
      known allocated (by omega)
    rw [here] at read
    cases read
    -- a lent descriptor is of nobody's making, so the reader has made this pipe
    have serial : reader.serial = source.serial := by
      rcases mine with made | foreign
      · have files := SourceLifetime.Source.serial_files
          (SourceLifetime.Source.owned_files made)
        exact (Option.some.inj files.1).symm
      · exact absurd foreign.1 (Option.some_ne_none _)
    have own := invariant.accounts.apart id (.looper thread) reader source known found serial
    rw [own] at member
    exact ⟨((kept.member waitSet).mp member).2, own⟩

theorem wakes_own_looper_twoThreads :
    ∃ state, run step (start (inherited [0, 1, 2])) twoThreads = some state ∧
      state.process.wait (.looper true) 7 = some (.looper true) ∧
      ∀ waitSet id, state.process.wait waitSet 7 = some id → waitSet = .looper true := by
  obtain ⟨state, performed, looping, source, found, handles⟩ :
      ∃ state, run step (start (inherited [0, 1, 2])) twoThreads = some state ∧
        state.loopers true = some { trivialSource := .added } ∧
        ∃ source, state.process.sources (.looper true) = some source ∧ source.handles = (7, 8) :=
    ⟨_, rfl, rfl, _, rfl, rfl⟩
  have careful : Respects step (Lends (inherited [0, 1, 2]).find) (start (inherited [0, 1, 2]))
      twoThreads := by
    apply Respects.of_forall
    intro before action member
    apply lends_lendless
    intro id lent same
    rw [same] at member
    simp [twoThreads] at member
  have apart : ∀ thread, .terminateWhileAdding thread ∉ twoThreads := by simp [twoThreads]
  obtain ⟨same, here, reads, _, returned, only⟩ :=
    wakes_own_looper performed apart careful looping
  rw [found] at here
  cases here
  rw [handles] at reads returned
  exact ⟨state, performed, returned, fun waitSet id other => (only waitSet 7 id reads other).1⟩

/-- The overlap leaves the write end of one pipe and the read end of another in use. -/
example : ∃ state, run step (start (inherited [0, 1, 2]))
      [.Current true, .loop true, (.terminateWhileAdding true : Action Bool Nat)] =
        some state ∧
    (state.process.sources (.looper true)).map SourceLifetime.Source.handles = some (6, 7) ∧
    state.process.wait (.looper true) 4 = some (.looper true) ∧
    state.process.wait (.looper true) 6 = none :=
  ⟨_, rfl, rfl, rfl, rfl⟩

end Runs

end CoreLib.LooperThreads
