/-
What `loop()` calls, and on which sources.

`loop()` keeps the raw pointer that `wait` returned across the call of the reader, and
calls `onAwoken` on it afterwards.  The reader and the wake function are user code:
what they do to the looper is a list of operations, chosen anew for each call.  The
events record each change of the set and each call, with the membership of the source
at that moment.
-/

import CoreLib.Looper
import CoreLib.WaitSetPlatforms
import CoreLib.Foundation.Runs

set_option autoImplicit false

namespace CoreLib.LooperDispatch

open Foundation WaitSetPlatforms
open Looper (Registered)

inductive Call where
  | reader
  | onAwoken
deriving DecidableEq

/-- `added` and `removed` stand for calls that returned true. -/
inductive Event (Source : Type) where
  | added (source : Registered Source)
  | removed (source : Registered Source)
  | called (call : Call) (source : Registered Source) (member : Bool)
deriving DecidableEq

/-- What user code asks of the looper.  A channel that is not connected has no source to
schedule, and one that was never scheduled has none to unschedule. -/
inductive Operation (Source : Type) where
  | addSource (source : Source)
  | removeSource (source : Source)
  | scheduleInLooper (source : Option Source)
  | unscheduleFromLooper (source : Option Source)
  | terminate
deriving DecidableEq

inductive Point where
  | outside
  | test
  | wait
deriving DecidableEq

structure State {Source : Type} (platform : Platform (Registered Source)) where
  waitSet : WaitSet (Registered Source) platform.Kernel
  trivialSource : Bool
  shouldTerminate : Bool
  pipe : Nat
  point : Point
  /-- The latest first. -/
  events : List (Event Source)

/-- `perform` is the owner's code outside `loop()` and `terminate` is another thread.  In
`dispatch` the kernel picks a ready registration, and the reader and the wake function
are absent where the source has none. -/
inductive Action {Source : Type} (platform : Platform (Registered Source)) where
  | perform (operation : Operation Source)
  | terminate
  | loop
  | test
  | dispatch (ready : Option platform.Key) (reader wake : Option (List (Operation Source)))

variable {Source : Type} [DecidableEq Source] {platform : Platform (Registered Source)}

def initial (platform : Platform (Registered Source)) : State platform :=
  { waitSet := .empty platform.created
    trivialSource := false
    shouldTerminate := false
    pipe := 0
    point := .outside
    events := [] }

namespace State

variable (state : State platform)

def record (event : Event Source) : State platform :=
  { state with events := event :: state.events }

def addSource (source : Registered Source) : State platform :=
  let added := state.waitSet.addSource platform.update source
  let changed := { state with waitSet := added.2 }
  if added.1 then changed.record (.added source) else changed

def removeSource (source : Registered Source) : State platform :=
  let removed := state.waitSet.removeSource platform.update source
  let changed := { state with waitSet := removed.2 }
  if removed.1 then changed.record (.removed source) else changed

/-- Without a trivial source `terminate` dereferences a null pointer. -/
def terminate : Option (State platform) :=
  if state.trivialSource then
    some { state with
      shouldTerminate := true
      pipe := state.pipe + 1 }
  else none

def perform : Operation Source → Option (State platform)
  | .addSource source => some (state.addSource (.user source))
  | .removeSource source => some (state.removeSource (.user source))
  | .scheduleInLooper source =>
      some (source.elim state fun source => state.addSource (.user source))
  | .unscheduleFromLooper source =>
      some (source.elim state fun source => state.removeSource (.user source))
  | .terminate => state.terminate

def call (call : Call) (source : Registered Source) : State platform :=
  state.record (.called call source (state.waitSet.sources.contains source))

def loop : State platform :=
  if state.trivialSource then { state with point := .test }
  else
    { state.addSource .trivialSource with
      trivialSource := true
      point := .test }

/-- `while (!_shouldTerminate)`, and the reset behind it. -/
def test : State platform :=
  if state.shouldTerminate then
    { state with
      shouldTerminate := false
      point := .outside }
  else { state with point := .wait }

/-- `if (reader) reader(source->readHandle())`.  The reader of the trivial source takes a
token from its pipe. -/
def read : Registered Source → Option (List (Operation Source)) → Option (State platform)
  | .trivialSource, _ =>
      if 0 < state.pipe then
        some { state.call .reader .trivialSource with pipe := state.pipe - 1 }
      else none
  | .user _, none => some state
  | .user source, some operations =>
      run perform (state.call .reader (.user source)) operations

/-- `source->onAwoken()`.  The trivial source has no wake function. -/
def awaken : Registered Source → Option (List (Operation Source)) → Option (State platform)
  | .user source, some operations =>
      run perform (state.call .onAwoken (.user source)) operations
  | source, _ => some (state.call .onAwoken source)

def dispatch (ready : Option platform.Key) (reader wake : Option (List (Operation Source))) :
    Option (State platform) :=
  match ready with
  | none => some { state with point := .test }
  | some key => do
      let source ← platform.wait state.waitSet.kernel key
      let read ← state.read source reader
      let awoken ← read.awaken source wake
      return { awoken with point := .test }

end State

def step (state : State platform) : Action platform → Option (State platform)
  | .perform operation => if state.point = .outside then state.perform operation else none
  | .terminate => state.terminate
  | .loop => if state.point = .outside then some state.loop else none
  | .test => if state.point = .test then some state.test else none
  | .dispatch ready reader wake =>
      if state.point = .wait then state.dispatch ready reader wake else none

/-- Added with success and not removed with success since. -/
def isMember (source : Registered Source) : List (Event Source) → Bool
  | [] => false
  | .added other :: earlier => source = other || isMember source earlier
  | .removed other :: earlier => source ≠ other && isMember source earlier
  | .called .. :: earlier => isMember source earlier

/-- Every call was on a source that was a member of the set, and that was added with
success and not removed with success since. -/
def CallsMembers : List (Event Source) → Prop
  | [] => True
  | .called _ source member :: earlier =>
      member = true ∧ isMember source earlier = true ∧ CallsMembers earlier
  | _ :: earlier => CallsMembers earlier

def Operation.concerns (source : Source) : Operation Source → Option Bool
  | .addSource other => if other = source then some true else none
  | .removeSource other => if other = source then some false else none
  | .scheduleInLooper other => if other = some source then some true else none
  | .unscheduleFromLooper other => if other = some source then some false else none
  | .terminate => none

/-- Of the operations of a reader that concern its own source, the last one is not a
removal. -/
def ReaderKeeps : Registered Source → Option (List (Operation Source)) → Prop
  | .user source, some operations =>
      (operations.filterMap (Operation.concerns source)).getLast? ≠ some false
  | _, _ => True

/-- No reader ends with the removal of its own source. -/
def KeepsOwnSource (state : State platform) : Action platform → Prop
  | .dispatch (some key) reader _ => ∀ source,
      platform.wait state.waitSet.kernel key = some source → ReaderKeeps source reader
  | _ => True

inductive System where
  | linux
  | apple
deriving DecidableEq

def withTrivial (traits : Source → Traits) : Registered Source → Traits
  | .trivialSource => Traits.AsTrivial
  | .user source => traits source

def System.backend (traits : Source → Traits) (openNumbers : List Int) :
    System → Platform (Registered Source)
  | .linux => WaitSetPlatforms.linux (withTrivial traits) openNumbers
  | .apple => WaitSetPlatforms.apple (withTrivial traits) openNumbers

/-! ### One operation -/

theorem addSource_cases (state : State platform) (source : Registered Source) :
    (source ∈ state.waitSet.sources ∧ state.addSource source = state) ∨
      (source ∉ state.waitSet.sources ∧
        (state.addSource source).waitSet.kernel =
          platform.update source true state.waitSet.kernel ∧
        (state.addSource source).events = .added source :: state.events) := by
  unfold State.addSource
  rcases WaitSet.addSource_cases platform.update state.waitSet source with
    ⟨present, same⟩ | ⟨absent, added, _, kernel⟩
  · rw [same]
    exact Or.inl ⟨present, rfl⟩
  · simp only [added, if_true, State.record]
    exact Or.inr ⟨absent, kernel, trivial⟩

theorem removeSource_cases (state : State platform) (source : Registered Source) :
    (source ∉ state.waitSet.sources ∧ state.removeSource source = state) ∨
      (source ∈ state.waitSet.sources ∧
        (state.removeSource source).waitSet.kernel =
          platform.update source false state.waitSet.kernel ∧
        (state.removeSource source).events = .removed source :: state.events) := by
  unfold State.removeSource
  rcases WaitSet.removeSource_cases platform.update state.waitSet source with
    ⟨absent, same⟩ | ⟨present, removed, _, kernel⟩
  · rw [same]
    exact Or.inl ⟨absent, rfl⟩
  · simp only [removed, if_true, State.record]
    exact Or.inr ⟨present, kernel, trivial⟩

theorem addSource_waitSet (state : State platform) (source : Registered Source) :
    (state.addSource source).waitSet = (state.waitSet.addSource platform.update source).2 := by
  unfold State.addSource
  dsimp only
  split <;> rfl

theorem removeSource_waitSet (state : State platform) (source : Registered Source) :
    (state.removeSource source).waitSet =
      (state.waitSet.removeSource platform.update source).2 := by
  unfold State.removeSource
  dsimp only
  split <;> rfl

theorem mem_addSource {state : State platform} {source other : Registered Source} :
    other ∈ (state.addSource source).waitSet.sources ↔
      other = source ∨ other ∈ state.waitSet.sources := by
  rw [addSource_waitSet]
  exact WaitSet.mem_addSource

theorem mem_removeSource {state : State platform} {source other : Registered Source} :
    other ∈ (state.removeSource source).waitSet.sources ↔
      other ≠ source ∧ other ∈ state.waitSet.sources := by
  rw [removeSource_waitSet]
  exact WaitSet.mem_removeSource

/-- What an operation can do: one addition, one removal, or nothing to the set. -/
theorem perform_cases {state next : State platform} {operation : Operation Source}
    (performed : state.perform operation = some next) :
    (∃ source, next = state.addSource (.user source) ∧
        ∀ other, operation.concerns other = if source = other then some true else none) ∨
      (∃ source, next = state.removeSource (.user source) ∧
        ∀ other, operation.concerns other = if source = other then some false else none) ∨
      (next.waitSet = state.waitSet ∧ next.events = state.events ∧
        ∀ other, operation.concerns other = none) := by
  cases operation with
  | addSource source =>
      cases performed
      exact Or.inl ⟨source, rfl, fun _ => rfl⟩
  | removeSource source =>
      cases performed
      exact Or.inr (Or.inl ⟨source, rfl, fun _ => rfl⟩)
  | scheduleInLooper channel =>
      cases performed
      cases channel with
      | none => exact Or.inr (Or.inr ⟨rfl, rfl, fun _ => rfl⟩)
      | some source =>
          refine Or.inl ⟨source, rfl, fun other => ?_⟩
          simp only [Operation.concerns, Option.some.injEq]
  | unscheduleFromLooper channel =>
      cases performed
      cases channel with
      | none => exact Or.inr (Or.inr ⟨rfl, rfl, fun _ => rfl⟩)
      | some source =>
          refine Or.inr (Or.inl ⟨source, rfl, fun other => ?_⟩)
          simp only [Operation.concerns, Option.some.injEq]
  | terminate =>
      simp only [State.perform, State.terminate] at performed
      split at performed
      · cases performed
        exact Or.inr (Or.inr ⟨rfl, rfl, fun _ => rfl⟩)
      · contradiction

/-! ### The invariant -/

/-- The kernel registers members only, and the events tell who is a member. -/
structure Sound (follows : (Registered Source → Prop) → platform.Kernel → Prop)
    (state : State platform) : Prop where
  kernel : follows (· ∈ state.waitSet.sources) state.waitSet.kernel
  history : ∀ source, isMember source state.events = true ↔ source ∈ state.waitSet.sources

section Invariant

variable {follows : (Registered Source → Prop) → platform.Kernel → Prop}
  {state next : State platform}

theorem Sound.addSource (lawful : platform.Follows follows) (sound : Sound follows state)
    (source : Registered Source) : Sound follows (state.addSource source) := by
  rcases addSource_cases state source with ⟨_, same⟩ | ⟨_, kernel, events⟩
  · rw [same]
    exact sound
  · refine ⟨?_, fun other => ?_⟩
    · rw [kernel]
      exact lawful.mono (lawful.added sound.kernel source) fun _ => mem_addSource.mpr
    · rw [events, mem_addSource, ← sound.history other, isMember, Bool.or_eq_true,
        decide_eq_true_iff]

theorem Sound.removeSource (lawful : platform.Follows follows) (sound : Sound follows state)
    (source : Registered Source) : Sound follows (state.removeSource source) := by
  rcases removeSource_cases state source with ⟨_, same⟩ | ⟨_, kernel, events⟩
  · rw [same]
    exact sound
  · refine ⟨?_, fun other => ?_⟩
    · rw [kernel]
      exact lawful.mono (lawful.removed sound.kernel source) fun _ => mem_removeSource.mpr
    · rw [events, mem_removeSource, ← sound.history other, isMember, Bool.and_eq_true,
        decide_eq_true_iff]

theorem Sound.of_same (sound : Sound follows state) (waitSet : next.waitSet = state.waitSet)
    (events : ∀ source, isMember source next.events = isMember source state.events) :
    Sound follows next := by
  refine ⟨?_, fun source => ?_⟩
  · rw [waitSet]
    exact sound.kernel
  · rw [waitSet, events source]
    exact sound.history source

theorem Sound.perform (lawful : platform.Follows follows) (sound : Sound follows state)
    {operation : Operation Source} (performed : state.perform operation = some next) :
    Sound follows next := by
  rcases perform_cases performed with ⟨source, same, _⟩ | ⟨source, same, _⟩ | ⟨waitSet, events, _⟩
  · rw [same]
    exact sound.addSource lawful (.user source)
  · rw [same]
    exact sound.removeSource lawful (.user source)
  · exact sound.of_same waitSet fun _ => by rw [events]

theorem Sound.run (lawful : platform.Follows follows) (sound : Sound follows state)
    {operations : List (Operation Source)}
    (performed : Foundation.run State.perform state operations = some next) :
    Sound follows next :=
  run_preserves (fun _ _ _ held enabled => held.perform lawful enabled) sound performed

theorem Sound.call (sound : Sound follows state) (call : Call) (source : Registered Source) :
    Sound follows (state.call call source) :=
  sound.of_same rfl fun _ => rfl

end Invariant

/-! ### User code -/

theorem addSource_callsMembers (state : State platform) (source : Registered Source) :
    CallsMembers (state.addSource source).events ↔ CallsMembers state.events := by
  rcases addSource_cases state source with ⟨_, same⟩ | ⟨_, _, events⟩
  · rw [same]
  · rw [events, CallsMembers]
    nofun

theorem removeSource_callsMembers (state : State platform) (source : Registered Source) :
    CallsMembers (state.removeSource source).events ↔ CallsMembers state.events := by
  rcases removeSource_cases state source with ⟨_, same⟩ | ⟨_, _, events⟩
  · rw [same]
  · rw [events, CallsMembers]
    nofun

theorem perform_callsMembers {state next : State platform} {operation : Operation Source}
    (performed : state.perform operation = some next) :
    CallsMembers next.events ↔ CallsMembers state.events := by
  rcases perform_cases performed with ⟨source, same, _⟩ | ⟨source, same, _⟩ | ⟨_, events, _⟩
  · rw [same]
    exact addSource_callsMembers state (.user source)
  · rw [same]
    exact removeSource_callsMembers state (.user source)
  · rw [events]

theorem run_callsMembers {state next : State platform} {operations : List (Operation Source)}
    (performed : run State.perform state operations = some next) :
    CallsMembers next.events ↔ CallsMembers state.events := by
  induction operations generalizing state with
  | nil =>
      cases performed
      exact Iff.rfl
  | cons operation rest ih =>
      obtain ⟨middle, enabled, remaining⟩ := run_cons_some performed
      exact (ih remaining).trans (perform_callsMembers enabled)

theorem perform_mem {state next : State platform} {operation : Operation Source}
    (performed : state.perform operation = some next) (source : Source) :
    decide (.user source ∈ next.waitSet.sources) =
      (operation.concerns source).getD (.user source ∈ state.waitSet.sources) := by
  rcases perform_cases performed with
    ⟨other, same, concerns⟩ | ⟨other, same, concerns⟩ | ⟨waitSet, _, concerns⟩
  · rw [same, concerns source]
    by_cases equal : other = source
    · simp [mem_addSource, equal]
    · simp [mem_addSource, equal, Ne.symm equal]
  · rw [same, concerns source]
    by_cases equal : other = source
    · simp [mem_removeSource, equal]
    · simp [mem_removeSource, equal, Ne.symm equal]
  · rw [waitSet, concerns source]
    rfl

/-- The last operation that concerns a source decides on its membership. -/
theorem run_mem {state next : State platform} {operations : List (Operation Source)}
    (performed : run State.perform state operations = some next) (source : Source) :
    decide (.user source ∈ next.waitSet.sources) =
      (operations.filterMap (Operation.concerns source)).getLast?.getD
        (.user source ∈ state.waitSet.sources) := by
  induction operations generalizing state with
  | nil =>
      cases performed
      rfl
  | cons operation rest ih =>
      obtain ⟨middle, enabled, remaining⟩ := run_cons_some performed
      rw [ih remaining, perform_mem enabled source]
      cases concerned : operation.concerns source with
      | none => rw [List.filterMap_cons_none concerned, Option.getD_none]
      | some kept =>
          rw [List.filterMap_cons_some concerned, List.getLast?_cons]
          rfl

/-! ### One round -/

section Round

variable {follows : (Registered Source → Prop) → platform.Kernel → Prop}
  {state next : State platform} {source : Registered Source}
  {reader wake : Option (List (Operation Source))}

theorem call_callsMembers (sound : Sound follows state) (call : Call)
    (source : Registered Source) :
    CallsMembers (state.call call source).events ↔
      source ∈ state.waitSet.sources ∧ CallsMembers state.events := by
  change (state.waitSet.sources.contains source = true ∧
    isMember source state.events = true ∧ CallsMembers state.events) ↔ _
  rw [List.contains_iff_mem, sound.history source]
  constructor
  · rintro ⟨member, _, earlier⟩
    exact ⟨member, earlier⟩
  · rintro ⟨member, earlier⟩
    exact ⟨member, member, earlier⟩

/-- The source is still a member after its reader exactly when the reader keeps it. -/
theorem read_spec (lawful : platform.Follows follows) (sound : Sound follows state)
    (member : source ∈ state.waitSet.sources) (performed : state.read source reader = some next) :
    Sound follows next ∧ (CallsMembers next.events ↔ CallsMembers state.events) ∧
      (source ∈ next.waitSet.sources ↔ ReaderKeeps source reader) := by
  have called : CallsMembers (state.call .reader source).events ↔ CallsMembers state.events := by
    rw [call_callsMembers sound .reader source]
    exact and_iff_right member
  cases source with
  | trivialSource =>
      simp only [State.read] at performed
      split at performed
      · cases performed
        exact ⟨(sound.call .reader .trivialSource).of_same rfl fun _ => rfl, called,
          iff_of_true member trivial⟩
      · contradiction
  | user source =>
      cases reader with
      | none =>
          cases performed
          exact ⟨sound, Iff.rfl, iff_of_true member trivial⟩
      | some operations =>
          have started := sound.call .reader (.user source)
          have kept := run_mem performed source
          refine ⟨started.run lawful performed, (run_callsMembers performed).trans called, ?_⟩
          apply decide_eq_true_iff.symm.trans
          rw [kept, ReaderKeeps]
          cases (operations.filterMap (Operation.concerns source)).getLast? with
          | none => exact iff_of_true (decide_eq_true member) nofun
          | some last => cases last <;> simp

theorem awaken_spec (lawful : platform.Follows follows) (sound : Sound follows state)
    (performed : state.awaken source wake = some next) :
    Sound follows next ∧ (CallsMembers next.events ↔
      source ∈ state.waitSet.sources ∧ CallsMembers state.events) := by
  have started := sound.call .onAwoken source
  have called := call_callsMembers sound .onAwoken source
  unfold State.awaken at performed
  split at performed
  · exact ⟨started.run lawful performed, (run_callsMembers performed).trans called⟩
  · cases performed
    exact ⟨started, called⟩

theorem dispatch_spec (lawful : platform.Follows follows) (sound : Sound follows state)
    {ready : Option platform.Key} (performed : state.dispatch ready reader wake = some next) :
    Sound follows next ∧ (CallsMembers next.events ↔
      KeepsOwnSource state (.dispatch ready reader wake) ∧ CallsMembers state.events) := by
  cases ready with
  | none =>
      cases performed
      exact ⟨sound.of_same rfl fun _ => rfl, (and_iff_right trivial).symm⟩
  | some key =>
      obtain ⟨source, waited, performed⟩ := Option.bind_eq_some_iff.mp performed
      obtain ⟨middle, read, performed⟩ := Option.bind_eq_some_iff.mp performed
      obtain ⟨last, awoken, returned⟩ := Option.bind_eq_some_iff.mp performed
      cases returned
      have member := lawful.waits sound.kernel key source waited
      obtain ⟨between, reading, kept⟩ := read_spec lawful sound member read
      obtain ⟨after, awaking⟩ := awaken_spec lawful between awoken
      refine ⟨after.of_same rfl fun _ => rfl, ?_⟩
      have same : KeepsOwnSource state (.dispatch (some key) reader wake) ↔
          ReaderKeeps source reader := by
        constructor
        · intro keeps
          exact keeps source waited
        · intro keeps other found
          rw [waited] at found
          cases found
          exact keeps
      rw [same, ← kept, ← reading]
      exact awaking

end Round

/-! ### Every run -/

/-- A step keeps the invariant, and its calls are on members exactly when no reader ends
with the removal of its own source. -/
theorem step_spec {follows : (Registered Source → Prop) → platform.Kernel → Prop}
    (lawful : platform.Follows follows) {state next : State platform} (sound : Sound follows state)
    {action : Action platform} (enabled : step state action = some next) :
    Sound follows next ∧ (CallsMembers next.events ↔
      KeepsOwnSource state action ∧ CallsMembers state.events) := by
  cases action with
  | perform operation =>
      simp only [step] at enabled
      split at enabled
      · exact ⟨sound.perform lawful enabled,
          (perform_callsMembers enabled).trans (and_iff_right trivial).symm⟩
      · contradiction
  | terminate =>
      have performed : state.perform .terminate = some next := enabled
      exact ⟨sound.perform lawful performed,
        (perform_callsMembers performed).trans (and_iff_right trivial).symm⟩
  | loop =>
      simp only [step] at enabled
      split at enabled
      · cases enabled
        unfold State.loop
        split
        · exact ⟨sound.of_same rfl fun _ => rfl, (and_iff_right trivial).symm⟩
        · refine ⟨(sound.addSource lawful .trivialSource).of_same rfl fun _ => rfl, ?_⟩
          exact (addSource_callsMembers state .trivialSource).trans (and_iff_right trivial).symm
      · contradiction
  | test =>
      simp only [step] at enabled
      split at enabled
      · cases enabled
        unfold State.test
        split
        · exact ⟨sound.of_same rfl fun _ => rfl, (and_iff_right trivial).symm⟩
        · exact ⟨sound.of_same rfl fun _ => rfl, (and_iff_right trivial).symm⟩
      · contradiction
  | dispatch ready reader wake =>
      simp only [step] at enabled
      split at enabled
      · exact dispatch_spec lawful sound enabled
      · contradiction

theorem initial_sound {follows : (Registered Source → Prop) → platform.Kernel → Prop}
    (lawful : platform.Follows follows) : Sound follows (initial platform) :=
  { kernel := lawful.mono lawful.created fun _ impossible => impossible.elim
    history := fun _ => ⟨nofun, nofun⟩ }

theorem callsMembers_iff_keepsOwnSource
    {follows : (Registered Source → Prop) → platform.Kernel → Prop}
    (lawful : platform.Follows follows) (actions : List (Action platform)) :
    Always step (fun state => CallsMembers state.events) (initial platform) actions ↔
      Respects step KeepsOwnSource (initial platform) actions := by
  apply always_iff_respects (fun _ => True)
    (fun state => Sound follows state ∧ CallsMembers state.events)
  · intro state action next held _ keeps enabled
    obtain ⟨sound, called⟩ := held
    obtain ⟨after, calls⟩ := step_spec lawful sound enabled
    exact ⟨after, calls.mpr ⟨keeps, called⟩⟩
  · intro state held
    exact held.2
  · intro state action next held removes enabled calls
    exact removes ((step_spec lawful held.1 enabled).2.mp calls).1
  · exact ⟨initial_sound lawful, trivial⟩
  · intro action member
    trivial

/-- On both kernels, with any sources, whose allocators open any numbers, and in every run:
each call of a reader or of `onAwoken` is on a member of the set if and only if no reader
ends with the removal of its own source. -/
theorem calls_only_members_iff (traits : Source → Traits) (openNumbers : List Int)
    (system : System) (actions : List (Action (system.backend traits openNumbers))) :
    Always step (fun state => CallsMembers state.events) (initial _) actions ↔
      Respects step KeepsOwnSource (initial _) actions := by
  cases system with
  | linux => exact callsMembers_iff_keepsOwnSource (linux_follows _ openNumbers) actions
  | apple => exact callsMembers_iff_keepsOwnSource (apple_follows _ openNumbers) actions

def socketTraits : Nat → Traits := fun _ =>
  { handlesAllocator := fun _ => (5, [])
    repeatInterval := none }

/-- A message callback unschedules its channel and terminates the looper, as that of
`TwoWayCommunicationTest` does. -/
def twoWayCommunication : List (Action (System.linux.backend socketTraits [5])) :=
  [.perform (.scheduleInLooper (some 0)), .loop, .test,
    .dispatch (some (5 : Int)) (some [.unscheduleFromLooper (some 0), .terminate]) none]

/-- `onAwoken` is called on the source that the callback has removed. -/
theorem removed_source_awoken :
    ¬ ∀ (traits : Nat → Traits) (openNumbers : List Int) (system : System)
        (actions : List (Action (system.backend traits openNumbers))),
      Always step (fun state => CallsMembers state.events) (initial _) actions := by
  intro members
  obtain ⟨state, performed, awoken⟩ :
      ∃ state, run step (initial _) twoWayCommunication = some state ∧
        state.events.head? = some (.called .onAwoken (.user 0) false) :=
    ⟨_, rfl, rfl⟩
  have calls := (members socketTraits [5] .linux twoWayCommunication).final performed
  cases listed : state.events with
  | nil =>
      rw [listed] at awoken
      contradiction
  | cons event earlier =>
      rw [listed] at awoken calls
      cases awoken
      exact Bool.false_ne_true calls.1

end CoreLib.LooperDispatch
