/-
The order in which a looper dispatches ready sources.

`wait` asks epoll for one event.  The kernel keeps the ready registrations in a list: one
joins it at the end when its descriptor becomes ready, and the one that is returned goes to
the end, since registrations are level-triggered.  The reader and the wake function of a
dispatched source, and other threads, may do anything between two calls of `wait`.  A
source keeps the number of its descriptor for life.  No open file has a second number, so
its registration ends when its number is closed, and `epoll_ctl` fails on a closed number
and on one that is registered; the library ignores these failures.
-/

import CoreLib.Foundation.Rotation
import CoreLib.Foundation.Runs
import CoreLib.WaitSet

set_option autoImplicit false

namespace CoreLib.LooperFairness

open Foundation

/-- The numbers of a process, what a poll of each says now, and an epoll set with its list
of ready registrations. -/
structure ReadyList (Source : Type) where
  opened : Int → Bool
  level : Int → Bool
  interest : Int → Option Source
  ready : List Source

structure State (Source : Type) where
  waitSet : WaitSet Source (ReadyList Source)
  dispatched : List Source

inductive Action (Source : Type) where
  | openNumber (number : Int)
  | closeNumber (number : Int)
  /-- The descriptor becomes readable. -/
  | signal (number : Int)
  /-- It has been read empty, by a reader or by anybody else. -/
  | drain (number : Int)
  | addSource (source : Source)
  | removeSource (source : Source)
  /-- One round of `loop`. -/
  | dispatch

variable {Source : Type} [DecidableEq Source]

namespace ReadyList

variable (kernel : ReadyList Source)

def openNumber (number : Int) : ReadyList Source :=
  { kernel with
    opened := Function.update kernel.opened number true
    level := Function.update kernel.level number false }

def unlisted (number : Int) : List Source :=
  match kernel.interest number with
  | some source => kernel.ready.erase source
  | none => kernel.ready

/-- The ready list when a poll of the number says that it is readable. -/
def relisted (number : Int) : List Source :=
  match kernel.interest number with
  | some source => Rotation.join source kernel.ready
  | none => kernel.ready

def closeNumber (number : Int) : ReadyList Source :=
  { opened := Function.update kernel.opened number false
    level := Function.update kernel.level number false
    interest := Function.update kernel.interest number none
    ready := kernel.unlisted number }

def signal (number : Int) : ReadyList Source :=
  if kernel.opened number then
    { kernel with
      level := Function.update kernel.level number true
      ready := kernel.relisted number }
  else kernel

def drain (number : Int) : ReadyList Source :=
  { kernel with level := Function.update kernel.level number false }

/-- EPOLL_CTL_ADD polls the descriptor that it registers. -/
def add (number : Int) (source : Source) : ReadyList Source :=
  if kernel.opened number && (kernel.interest number).isNone then
    { kernel with
      interest := Function.update kernel.interest number (some source)
      ready := if kernel.level number then Rotation.join source kernel.ready else kernel.ready }
  else kernel

/-- EPOLL_CTL_DEL, which looks at the number only. -/
def delete (number : Int) : ReadyList Source :=
  if kernel.opened number then
    { kernel with
      interest := Function.update kernel.interest number none
      ready := kernel.unlisted number }
  else kernel

def update (handle : Source → Int) (source : Source) (shouldAdd : Bool)
    (kernel : ReadyList Source) : ReadyList Source :=
  if shouldAdd then kernel.add (handle source) source else kernel.delete (handle source)

omit [DecidableEq Source] in
@[simp] theorem drain_level (number : Int) :
    (kernel.drain number).level = Function.update kernel.level number false := rfl

@[simp] theorem closeNumber_level (number : Int) :
    (kernel.closeNumber number).level = Function.update kernel.level number false := rfl

omit [DecidableEq Source] in
@[simp] theorem openNumber_level (number : Int) :
    (kernel.openNumber number).level = Function.update kernel.level number false := rfl

theorem update_level (handle : Source → Int) (source : Source) (shouldAdd : Bool) :
    (update handle source shouldAdd kernel).level = kernel.level := by
  unfold update add delete
  split
  · split <;> rfl
  · split <;> rfl

theorem update_opened (handle : Source → Int) (source : Source) (shouldAdd : Bool) :
    (update handle source shouldAdd kernel).opened = kernel.opened := by
  unfold update add delete
  split
  · split <;> rfl
  · split <;> rfl

variable {kernel}

theorem mem_unlisted {number : Int} {other : Source} (once : kernel.ready.Nodup) :
    other ∈ kernel.unlisted number ↔
      kernel.interest number ≠ some other ∧ other ∈ kernel.ready := by
  unfold unlisted
  cases kernel.interest number with
  | none => simp
  | some source => rw [once.mem_erase_iff, ne_eq, ne_eq, Option.some.injEq, eq_comm]

theorem unlisted_nodup {number : Int} (once : kernel.ready.Nodup) :
    (kernel.unlisted number).Nodup := by
  unfold unlisted
  split
  · exact once.erase _
  · exact once

theorem mem_relisted {number : Int} {other : Source} :
    other ∈ kernel.relisted number ↔
      kernel.interest number = some other ∨ other ∈ kernel.ready := by
  unfold relisted
  cases kernel.interest number with
  | none => simp
  | some source => rw [Rotation.mem_join, Option.some.injEq, eq_comm]

theorem relisted_nodup {number : Int} (once : kernel.ready.Nodup) :
    (kernel.relisted number).Nodup := by
  unfold relisted
  split
  · exact Rotation.join_nodup once
  · exact once

end ReadyList

def initial (opened : Int → Bool) : State Source :=
  { waitSet := .empty
      { opened := opened
        level := fun _ => false
        interest := fun _ => none
        ready := [] }
    dispatched := [] }

namespace State

variable (state : State Source)

def setKernel (kernel : ReadyList Source) : State Source :=
  { state with waitSet := { state.waitSet with kernel := kernel } }

/-- `WaitSet::platformHandleWait`, which blocks while nothing is ready. -/
def wait (handle : Source → Int) : Option (Source × State Source) :=
  (Rotation.serve (fun source => state.waitSet.kernel.level (handle source))
      state.waitSet.kernel.ready).map fun served =>
    (served.1, state.setKernel { state.waitSet.kernel with ready := served.2 })

end State

/-- One step, where `handle` gives the read handle of each source. -/
def step (handle : Source → Int) (state : State Source) : Action Source → Option (State Source)
  | .openNumber number =>
      if state.waitSet.kernel.opened number then none
      else some (state.setKernel (state.waitSet.kernel.openNumber number))
  | .closeNumber number => some (state.setKernel (state.waitSet.kernel.closeNumber number))
  | .signal number => some (state.setKernel (state.waitSet.kernel.signal number))
  | .drain number => some (state.setKernel (state.waitSet.kernel.drain number))
  | .addSource source => some
      { state with waitSet := (state.waitSet.addSource (ReadyList.update handle) source).2 }
  | .removeSource source => some
      { state with waitSet := (state.waitSet.removeSource (ReadyList.update handle) source).2 }
  | .dispatch => (state.wait handle).map fun returned =>
      { returned.2 with dispatched := state.dispatched ++ [returned.1] }

/-- No two members have the same number, and no number is given out again while a member
has it. -/
def Orderly (handle : Source → Int) (state : State Source) : Action Source → Prop
  | .addSource source => ∀ other ∈ state.waitSet.sources,
      handle other = handle source → other = source
  | .openNumber number => ∀ source ∈ state.waitSet.sources, handle source ≠ number
  | _ => True

omit [DecidableEq Source] in
theorem orderly_of_injective {handle : Source → Int} (injective : Function.Injective handle)
    {action : Action Source} (taken : ∀ number, action ≠ .openNumber number)
    (state : State Source) : Orderly handle state action := by
  cases action with
  | addSource source => exact fun _ _ same => injective same
  | openNumber number => exact absurd rfl (taken number)
  | _ => trivial

/-! ### The ready list -/

/-- The members with open numbers are registered, only those are in the ready list, and all
whose descriptors are readable. -/
structure Sound (handle : Source → Int) (sources : List Source) (kernel : ReadyList Source) :
    Prop where
  registered : ∀ number source, kernel.interest number = some source ↔
    source ∈ sources ∧ handle source = number ∧ kernel.opened number = true
  apart : ∀ one ∈ sources, ∀ other ∈ sources, handle one = handle other → one = other
  once : kernel.ready.Nodup
  listed : ∀ source ∈ kernel.ready, kernel.interest (handle source) = some source
  complete : ∀ source ∈ sources, kernel.level (handle source) = true → source ∈ kernel.ready
  lit : ∀ number, kernel.level number = true → kernel.opened number = true

section Kernel

variable {handle : Source → Int} {sources : List Source} {kernel : ReadyList Source}

omit [DecidableEq Source] in
theorem update_false {level : Int → Bool} {number other : Int}
    (lit : Function.update level number false other = true) :
    other ≠ number ∧ level other = true := by
  by_cases same : other = number
  · rw [same, Function.update_self] at lit
    contradiction
  · rw [Function.update_of_ne same] at lit
    exact ⟨same, lit⟩

omit [DecidableEq Source] in
theorem Sound.member (sound : Sound handle sources kernel) {source : Source}
    (ready : source ∈ kernel.ready) : source ∈ sources :=
  ((sound.registered _ source).mp (sound.listed source ready)).1

omit [DecidableEq Source] in
theorem Sound.openNumber (sound : Sound handle sources kernel) {number : Int}
    (unused : ∀ source ∈ sources, handle source ≠ number) :
    Sound handle sources (kernel.openNumber number) := by
  refine ⟨?_, sound.apart, sound.once, sound.listed, ?_, ?_⟩
  · intro other source
    by_cases same : other = number
    · rw [same]
      constructor
      · intro held
        obtain ⟨member, named, _⟩ := (sound.registered number source).mp held
        exact absurd named (unused source member)
      · rintro ⟨member, named, _⟩
        exact absurd named (unused source member)
    · simp only [ReadyList.openNumber, Function.update_of_ne same]
      exact sound.registered other source
  · intro source member lit
    exact sound.complete source member (update_false lit).2
  · intro other lit
    obtain ⟨different, before⟩ := update_false lit
    exact (Function.update_of_ne different ..).trans (sound.lit other before)

theorem Sound.closeNumber (sound : Sound handle sources kernel) (number : Int) :
    Sound handle sources (kernel.closeNumber number) := by
  refine ⟨?_, sound.apart, ReadyList.unlisted_nodup sound.once, ?_, ?_, ?_⟩
  · intro other source
    by_cases same : other = number
    · simp [ReadyList.closeNumber, same]
    · simp only [ReadyList.closeNumber, Function.update_of_ne same]
      exact sound.registered other source
  · intro source ready
    obtain ⟨different, earlier⟩ := (ReadyList.mem_unlisted sound.once).mp ready
    have held := sound.listed source earlier
    have elsewhere : handle source ≠ number := by
      intro same
      rw [same] at held
      exact different held
    exact (Function.update_of_ne elsewhere ..).trans held
  · intro source member lit
    obtain ⟨different, before⟩ := update_false lit
    refine (ReadyList.mem_unlisted sound.once).mpr ⟨?_, sound.complete source member before⟩
    intro held
    exact different ((sound.registered number source).mp held).2.1
  · intro other lit
    obtain ⟨different, before⟩ := update_false lit
    exact (Function.update_of_ne different ..).trans (sound.lit other before)

theorem Sound.signal (sound : Sound handle sources kernel) (number : Int) :
    Sound handle sources (kernel.signal number) := by
  unfold ReadyList.signal
  split
  · rename_i opened
    refine ⟨sound.registered, sound.apart, ReadyList.relisted_nodup sound.once, ?_, ?_, ?_⟩
    · intro source ready
      rcases ReadyList.mem_relisted.mp ready with held | earlier
      · rw [((sound.registered number source).mp held).2.1]
        exact held
      · exact sound.listed source earlier
    · intro source member lit
      dsimp only at lit
      apply ReadyList.mem_relisted.mpr
      by_cases same : handle source = number
      · exact Or.inl ((sound.registered number source).mpr ⟨member, same, opened⟩)
      · rw [Function.update_of_ne same] at lit
        exact Or.inr (sound.complete source member lit)
    · intro other lit
      dsimp only at lit
      by_cases same : other = number
      · rw [same]
        exact opened
      · rw [Function.update_of_ne same] at lit
        exact sound.lit other lit
  · exact sound

omit [DecidableEq Source] in
theorem Sound.drain (sound : Sound handle sources kernel) (number : Int) :
    Sound handle sources (kernel.drain number) :=
  { registered := sound.registered
    apart := sound.apart
    once := sound.once
    listed := sound.listed
    complete := fun source member lit => sound.complete source member (update_false lit).2
    lit := fun other lit => sound.lit other (update_false lit).2 }

omit [DecidableEq Source] in
theorem Sound.apart_cons (sound : Sound handle sources kernel) {source : Source}
    (unused : ∀ other ∈ sources, handle other ≠ handle source) :
    ∀ one ∈ source :: sources, ∀ other ∈ source :: sources,
      handle one = handle other → one = other := by
  intro one here other there same
  rcases List.mem_cons.mp here with new | old
  · rcases List.mem_cons.mp there with also | earlier
    · rw [new, also]
    · rw [new] at same
      exact absurd same.symm (unused other earlier)
  · rcases List.mem_cons.mp there with new | earlier
    · rw [new] at same
      exact absurd same (unused one old)
    · exact sound.apart one old other earlier same

/-- The kernel takes the registration, and polls the descriptor. -/
theorem Sound.add_open (sound : Sound handle sources kernel) {source : Source}
    (unused : ∀ other ∈ sources, handle other ≠ handle source)
    (opened : kernel.opened (handle source) = true) :
    Sound handle (source :: sources)
      { kernel with
        interest := Function.update kernel.interest (handle source) (some source)
        ready :=
          if kernel.level (handle source) then Rotation.join source kernel.ready
          else kernel.ready } := by
  have members : ∀ other, other ∈ (if kernel.level (handle source) then
      Rotation.join source kernel.ready else kernel.ready) ↔
      (other = source ∧ kernel.level (handle source) = true) ∨ other ∈ kernel.ready := by
    intro other
    split
    · rename_i lit
      rw [Rotation.mem_join, and_iff_left lit]
    · rename_i dark
      simp [dark]
  refine ⟨?_, sound.apart_cons unused, ?_, ?_, ?_, sound.lit⟩
  · intro number other
    dsimp only
    by_cases same : number = handle source
    · rw [same, Function.update_self, Option.some.injEq]
      constructor
      · rintro rfl
        exact ⟨List.mem_cons_self .., rfl, opened⟩
      · rintro ⟨member, named, _⟩
        rcases List.mem_cons.mp member with new | old
        · exact new.symm
        · exact absurd named (unused other old)
    · rw [Function.update_of_ne same, sound.registered, List.mem_cons]
      constructor
      · rintro ⟨member, named, lit⟩
        exact ⟨Or.inr member, named, lit⟩
      · rintro ⟨new | old, named, lit⟩
        · rw [new] at named
          exact absurd named.symm same
        · exact ⟨old, named, lit⟩
  · dsimp only
    split
    · exact Rotation.join_nodup sound.once
    · exact sound.once
  · intro other ready
    rcases (members other).mp ready with ⟨new, _⟩ | old
    · rw [new]
      exact Function.update_self ..
    · have elsewhere := unused other (sound.member old)
      exact (Function.update_of_ne elsewhere ..).trans (sound.listed other old)
  · intro other member lit
    apply (members other).mpr
    rcases List.mem_cons.mp member with new | old
    · rw [new] at lit
      exact Or.inl ⟨new, lit⟩
    · exact Or.inr (sound.complete other old lit)

omit [DecidableEq Source] in
/-- The number is closed, so nothing is registered and nothing can be read. -/
theorem Sound.add_closed (sound : Sound handle sources kernel) {source : Source}
    (unused : ∀ other ∈ sources, handle other ≠ handle source)
    (closed : ¬ kernel.opened (handle source) = true) :
    Sound handle (source :: sources) kernel := by
  refine ⟨?_, sound.apart_cons unused, sound.once, sound.listed, ?_, sound.lit⟩
  · intro number other
    rw [sound.registered, List.mem_cons]
    constructor
    · rintro ⟨member, named, opened⟩
      exact ⟨Or.inr member, named, opened⟩
    · rintro ⟨new | old, named, opened⟩
      · rw [← named, new] at opened
        exact absurd opened closed
      · exact ⟨old, named, opened⟩
  · intro other member lit
    rcases List.mem_cons.mp member with new | old
    · rw [new] at lit
      exact absurd (sound.lit _ lit) closed
    · exact sound.complete other old lit

theorem Sound.add (sound : Sound handle sources kernel) {source : Source}
    (unused : ∀ other ∈ sources, handle other ≠ handle source) :
    Sound handle (source :: sources) (kernel.add (handle source) source) := by
  have free : kernel.interest (handle source) = none := by
    rw [Option.eq_none_iff_forall_ne_some]
    intro other held
    obtain ⟨member, named, _⟩ := (sound.registered _ other).mp held
    exact unused other member named
  unfold ReadyList.add
  simp only [free, Option.isNone_none, Bool.and_true]
  split
  · rename_i opened
    exact sound.add_open unused opened
  · rename_i closed
    exact sound.add_closed unused closed

theorem Sound.mem_erase_iff (sound : Sound handle sources kernel) (distinct : sources.Nodup)
    {source other : Source} (member : source ∈ sources) :
    other ∈ sources.erase source ↔ handle other ≠ handle source ∧ other ∈ sources := by
  rw [distinct.mem_erase_iff]
  constructor
  · rintro ⟨different, old⟩
    exact ⟨fun same => different (sound.apart other old source member same), old⟩
  · rintro ⟨different, old⟩
    exact ⟨fun same => different (by rw [same]), old⟩

theorem Sound.apart_erase (sound : Sound handle sources kernel) (source : Source) :
    ∀ one ∈ sources.erase source, ∀ other ∈ sources.erase source,
      handle one = handle other → one = other :=
  fun one here other there =>
    sound.apart one (List.mem_of_mem_erase here) other (List.mem_of_mem_erase there)

theorem Sound.delete_open (sound : Sound handle sources kernel) (distinct : sources.Nodup)
    {source : Source} (member : source ∈ sources)
    (opened : kernel.opened (handle source) = true) :
    Sound handle (sources.erase source)
      { kernel with
        interest := Function.update kernel.interest (handle source) none
        ready := kernel.unlisted (handle source) } := by
  have registered := (sound.registered _ source).mpr ⟨member, rfl, opened⟩
  have unlisted : ∀ other, other ∈ kernel.unlisted (handle source) ↔
      other ≠ source ∧ other ∈ kernel.ready := by
    intro other
    rw [ReadyList.mem_unlisted sound.once, registered, ne_eq, Option.some.injEq, eq_comm]
  refine ⟨?_, sound.apart_erase source, ReadyList.unlisted_nodup sound.once, ?_, ?_, sound.lit⟩
  · intro number other
    dsimp only
    rw [sound.mem_erase_iff distinct member]
    by_cases same : number = handle source
    · rw [same, Function.update_self]
      constructor
      · exact nofun
      · rintro ⟨⟨different, _⟩, named, _⟩
        exact absurd named different
    · rw [Function.update_of_ne same, sound.registered]
      constructor
      · rintro ⟨old, named, still⟩
        exact ⟨⟨fun also => same (named.symm.trans also), old⟩, named, still⟩
      · rintro ⟨⟨_, old⟩, named, still⟩
        exact ⟨old, named, still⟩
  · intro other ready
    obtain ⟨different, earlier⟩ := (unlisted other).mp ready
    have left := distinct.mem_erase_iff.mpr ⟨different, sound.member earlier⟩
    have elsewhere := ((sound.mem_erase_iff distinct member).mp left).1
    exact (Function.update_of_ne elsewhere ..).trans (sound.listed other earlier)
  · intro other present lit
    obtain ⟨different, old⟩ := distinct.mem_erase_iff.mp present
    exact (unlisted other).mpr ⟨different, sound.complete other old lit⟩

theorem Sound.delete_closed (sound : Sound handle sources kernel) (distinct : sources.Nodup)
    {source : Source} (member : source ∈ sources)
    (closed : ¬ kernel.opened (handle source) = true) :
    Sound handle (sources.erase source) kernel := by
  refine ⟨?_, sound.apart_erase source, sound.once, ?_, ?_, sound.lit⟩
  · intro number other
    rw [sound.registered, sound.mem_erase_iff distinct member]
    constructor
    · rintro ⟨old, named, opened⟩
      refine ⟨⟨fun same => ?_, old⟩, named, opened⟩
      rw [← named, same] at opened
      exact closed opened
    · rintro ⟨⟨_, old⟩, named, opened⟩
      exact ⟨old, named, opened⟩
  · exact sound.listed
  · intro other present lit
    exact sound.complete other (List.mem_of_mem_erase present) lit

theorem Sound.delete (sound : Sound handle sources kernel) (distinct : sources.Nodup)
    {source : Source} (member : source ∈ sources) :
    Sound handle (sources.erase source) (kernel.delete (handle source)) := by
  unfold ReadyList.delete
  split
  · rename_i opened
    exact sound.delete_open distinct member opened
  · rename_i closed
    exact sound.delete_closed distinct member closed

omit [DecidableEq Source] in
theorem Sound.serve (sound : Sound handle sources kernel) {source : Source}
    {left : List Source}
    (served : Rotation.serve (fun other => kernel.level (handle other)) kernel.ready =
      some (source, left)) : Sound handle sources { kernel with ready := left } := by
  obtain ⟨still, kept⟩ := Rotation.mem_serve served
  refine ⟨sound.registered, sound.apart, Rotation.serve_nodup sound.once served, ?_, ?_,
    sound.lit⟩
  · intro other ready
    exact sound.listed other (still other ready)
  · intro other member level
    exact kept other (sound.complete other member level) level

end Kernel

section Steps

variable {handle : Source → Int} {state next : State Source} {action : Action Source}

theorem Sound.step (sound : Sound handle state.waitSet.sources state.waitSet.kernel)
    (orderly : Orderly handle state action)
    (enabled : LooperFairness.step handle state action = some next) :
    Sound handle next.waitSet.sources next.waitSet.kernel := by
  cases action with
  | openNumber number =>
      obtain ⟨_, same⟩ := Option.ite_none_left_eq_some.mp enabled
      cases same
      exact sound.openNumber orderly
  | closeNumber number =>
      cases enabled
      exact sound.closeNumber number
  | signal number =>
      cases enabled
      exact sound.signal number
  | drain number =>
      cases enabled
      exact sound.drain number
  | addSource source =>
      cases enabled
      rcases WaitSet.addSource_cases (ReadyList.update handle) state.waitSet source with
        ⟨_, unchanged⟩ | ⟨absent, _, sources, kernel⟩
      · rw [unchanged]
        exact sound
      · rw [sources, kernel]
        apply sound.add
        intro other member same
        rw [orderly other member same] at member
        exact absent member
  | removeSource source =>
      cases enabled
      rcases WaitSet.removeSource_cases (ReadyList.update handle) state.waitSet source with
        ⟨_, unchanged⟩ | ⟨member, _, sources, kernel⟩
      · rw [unchanged]
        exact sound
      · rw [sources, kernel]
        exact sound.delete state.waitSet.distinct member
  | dispatch =>
      obtain ⟨returned, waited, same⟩ := Option.map_eq_some_iff.mp enabled
      obtain ⟨served, serves, equal⟩ := Option.map_eq_some_iff.mp waited
      subst returned next
      exact sound.serve serves

/-! ### Bypassing -/

/-- Since `start`, when the source was ready, it has been dispatched, or the sources that have
been were ahead of it. -/
def Bypassed (handle : Source → Int) (start before : List Source) (source : Source)
    (state : State Source) : Prop :=
  ∃ bypassing, state.dispatched = before ++ bypassing ∧
    (source ∉ bypassing → source ∈ state.waitSet.sources ∧
      state.waitSet.kernel.level (handle source) = true ∧
      Rotation.Passing start source state.waitSet.kernel.ready bypassing)

/-- The source keeps its place: nobody reads its descriptor empty or closes it, or removes
the source. -/
def Leaves (handle : Source → Int) (source : Source) (action : Action Source) : Prop :=
  action ≠ .drain (handle source) ∧ action ≠ .closeNumber (handle source) ∧
    action ≠ .removeSource source

omit [DecidableEq Source] in
theorem update_lit {level : Int → Bool} {number other : Int} (lit : level other = true)
    (different : other ≠ number) : Function.update level number false other = true := by
  rw [Function.update_of_ne different]
  exact lit

theorem passing_unlisted {start served : List Source} {source : Source}
    {kernel : ReadyList Source} {number : Int}
    (passing : Rotation.Passing start source kernel.ready served)
    (apart : kernel.interest number ≠ some source) :
    Rotation.Passing start source (kernel.unlisted number) served := by
  unfold ReadyList.unlisted
  cases held : kernel.interest number with
  | none => exact passing
  | some other =>
      apply passing.erase
      rintro rfl
      exact apart held

theorem passing_relisted {start served : List Source} {source : Source}
    {kernel : ReadyList Source} {number : Int}
    (passing : Rotation.Passing start source kernel.ready served) :
    Rotation.Passing start source (kernel.relisted number) served := by
  unfold ReadyList.relisted
  split
  · exact passing.join
  · exact passing

/-- An addition puts nobody ahead, and a removal of another number leaves the source. -/
theorem passing_update {start served : List Source} {source other : Source}
    {kernel : ReadyList Source} {shouldAdd : Bool}
    (passing : Rotation.Passing start source kernel.ready served)
    (apart : shouldAdd = false → kernel.interest (handle other) ≠ some source) :
    Rotation.Passing start source (ReadyList.update handle other shouldAdd kernel).ready
      served := by
  unfold ReadyList.update ReadyList.add ReadyList.delete
  cases shouldAdd with
  | true =>
      rw [if_pos rfl]
      split
      · dsimp only
        split
        · exact passing.join
        · exact passing
      · exact passing
  | false =>
      rw [if_neg Bool.false_ne_true]
      split
      · exact passing_unlisted passing (apart rfl)
      · exact passing

theorem Bypassed.step {start before : List Source} {source : Source}
    (bypassed : Bypassed handle start before source state)
    (sound : Sound handle state.waitSet.sources state.waitSet.kernel)
    (enabled : LooperFairness.step handle state action = some next)
    (leaves : Leaves handle source action) : Bypassed handle start before source next := by
  obtain ⟨bypassing, dispatched, waits⟩ := bypassed
  cases action with
  | openNumber number =>
      obtain ⟨closed, same⟩ := Option.ite_none_left_eq_some.mp enabled
      cases same
      refine ⟨bypassing, dispatched, fun waiting => ?_⟩
      obtain ⟨member, level, passing⟩ := waits waiting
      refine ⟨member, update_lit level ?_, passing⟩
      rintro rfl
      exact closed (sound.lit _ level)
  | closeNumber number =>
      cases enabled
      refine ⟨bypassing, dispatched, fun waiting => ?_⟩
      obtain ⟨member, level, passing⟩ := waits waiting
      have different : handle source ≠ number := by
        rintro rfl
        exact leaves.2.1 rfl
      refine ⟨member, update_lit level different, passing_unlisted passing ?_⟩
      intro held
      exact different ((sound.registered number source).mp held).2.1
  | signal number =>
      cases enabled
      refine ⟨bypassing, dispatched, fun waiting => ?_⟩
      obtain ⟨member, level, passing⟩ := waits waiting
      simp only [State.setKernel, ReadyList.signal]
      split
      · refine ⟨member, ?_, passing_relisted passing⟩
        by_cases same : handle source = number
        · exact same ▸ Function.update_self ..
        · exact (Function.update_of_ne same ..).trans level
      · exact ⟨member, level, passing⟩
  | drain number =>
      cases enabled
      refine ⟨bypassing, dispatched, fun waiting => ?_⟩
      obtain ⟨member, level, passing⟩ := waits waiting
      refine ⟨member, update_lit level ?_, passing⟩
      rintro rfl
      exact leaves.1 rfl
  | addSource other =>
      cases enabled
      refine ⟨bypassing, dispatched, fun waiting => ?_⟩
      obtain ⟨member, level, passing⟩ := waits waiting
      refine ⟨WaitSet.mem_addSource.mpr (Or.inr member), ?_⟩
      rcases WaitSet.addSource_cases (ReadyList.update handle) state.waitSet other with
        ⟨_, unchanged⟩ | ⟨_, _, _, kernel⟩
      · rw [unchanged]
        exact ⟨level, passing⟩
      · rw [kernel, ReadyList.update_level]
        exact ⟨level, passing_update passing nofun⟩
  | removeSource other =>
      cases enabled
      refine ⟨bypassing, dispatched, fun waiting => ?_⟩
      obtain ⟨member, level, passing⟩ := waits waiting
      have different : other ≠ source := by
        rintro rfl
        exact leaves.2.2 rfl
      refine ⟨WaitSet.mem_removeSource.mpr ⟨Ne.symm different, member⟩, ?_⟩
      rcases WaitSet.removeSource_cases (ReadyList.update handle) state.waitSet other with
        ⟨_, unchanged⟩ | ⟨present, _, _, kernel⟩
      · rw [unchanged]
        exact ⟨level, passing⟩
      · rw [kernel, ReadyList.update_level]
        refine ⟨level, passing_update passing fun _ held => ?_⟩
        have named := ((sound.registered _ source).mp held).2.1
        exact different (sound.apart other present source member named.symm)
  | dispatch =>
      obtain ⟨returned, waited, same⟩ := Option.map_eq_some_iff.mp enabled
      obtain ⟨served, serves, equal⟩ := Option.map_eq_some_iff.mp waited
      subst returned next
      refine ⟨bypassing ++ [served.1], ?_, fun waiting => ?_⟩
      · dsimp only
        rw [dispatched, List.append_assoc]
      · rw [List.mem_append, List.mem_singleton, not_or] at waiting
        obtain ⟨member, level, passing⟩ := waits waiting.1
        exact ⟨member, level, passing.serve level serves (Ne.symm waiting.2)⟩

end Steps

/-! ### Whole runs -/

section Runs

variable {handle : Source → Int} {opened : Int → Bool} {earlier : List (Action Source)}
  {state : State Source}

omit [DecidableEq Source] in
theorem initial_sound (handle : Source → Int) (opened : Int → Bool) :
    Sound handle (initial opened : State Source).waitSet.sources
      (initial opened : State Source).waitSet.kernel := by
  refine ⟨?_, ?_, List.nodup_nil, ?_, ?_, ?_⟩
  · intro number source
    simp [initial, WaitSet.empty]
  · intro one impossible
    contradiction
  · intro source impossible
    contradiction
  · intro source impossible
    contradiction
  · intro number impossible
    contradiction

theorem sound_run (sound : Sound handle state.waitSet.sources state.waitSet.kernel)
    {actions : List (Action Source)} {after : State Source}
    (orderly : Respects (step handle) (Orderly handle) state actions)
    (performed : run (step handle) state actions = some after) :
    Sound handle after.waitSet.sources after.waitSet.kernel :=
  (always_of_preserved (fun _ _ _ (sound : Sound handle _ _) orderly enabled =>
    sound.step orderly enabled) sound orderly).final performed

theorem bypassed_run {start before : List Source} {source : Source} {after : State Source}
    {actions : List (Action Source)} (bypassed : Bypassed handle start before source state)
    (sound : Sound handle state.waitSet.sources state.waitSet.kernel)
    (orderly : Respects (step handle) (Orderly handle) state actions)
    (performed : run (step handle) state actions = some after)
    (leaves : ∀ action ∈ actions, Leaves handle source action) :
    Bypassed handle start before source after := by
  have always : Always (step handle)
      (fun state => Sound handle state.waitSet.sources state.waitSet.kernel ∧
        Bypassed handle start before source state) state actions := by
    refine always_of_preserved ?_ ⟨sound, bypassed⟩
      (orderly.and (Respects.of_forall fun _ => leaves))
    intro state action next held permitted enabled
    exact ⟨held.1.step permitted.1 enabled, held.2.step held.1 enabled permitted.2⟩
  exact (always.final performed).2

/-- A ready member waits for at most one dispatch of each of the other sources that are
ready then, whatever readers, wake functions and other threads do, as long as nobody reads
its descriptor empty or closes it or removes the source; and while it waits the looper does
not block. -/
theorem bypassed_once
    (orderly : Respects (step handle) (Orderly handle) (initial opened) earlier)
    (reached : run (step handle) (initial opened) earlier = some state)
    {source : Source} (member : source ∈ state.waitSet.sources)
    (ready : state.waitSet.kernel.level (handle source) = true) :
    (∃ next, step handle state .dispatch = some next) ∧
      ∀ actions after, run (step handle) state actions = some after →
        Respects (step handle) (Orderly handle) state actions →
        (∀ action ∈ actions, Leaves handle source action) →
        ∃ bypassing, after.dispatched = state.dispatched ++ bypassing ∧
          (source ∉ bypassing → bypassing.Nodup ∧
            (∀ other ∈ bypassing, other ∈ state.waitSet.kernel.ready) ∧
            bypassing.length < state.waitSet.sources.length) := by
  have sound := sound_run (initial_sound handle opened) orderly reached
  have listed := sound.complete source member ready
  constructor
  · have turn : ∃ served, Rotation.serve
        (fun other => state.waitSet.kernel.level (handle other))
        state.waitSet.kernel.ready = some served := Rotation.serve_exists listed ready
    obtain ⟨served, serves⟩ := turn
    rw [step, State.wait, serves]
    exact ⟨_, rfl⟩
  · intro actions after performed still leaves
    have waiting : Bypassed handle state.waitSet.kernel.ready state.dispatched source state :=
      ⟨[], (List.append_nil _).symm, fun _ => ⟨member, ready, .begin sound.once listed⟩⟩
    obtain ⟨bypassing, dispatched, waits⟩ := bypassed_run waiting sound still performed leaves
    refine ⟨bypassing, dispatched, fun outside => ?_⟩
    obtain ⟨once, others, fewer⟩ := (waits outside).2.2.bounded listed
    exact ⟨once, others, fewer.trans_le
      (List.subperm_of_subset sound.once fun _ => sound.member).length_le⟩

/-- Three ready sources, of which the first two stay ready: the third comes third. -/
def busy : List (Action Nat) :=
  [.addSource 0, .addSource 1, .addSource 2, .signal 0, .signal 1, .signal 2]

def threeRounds : List (Action Nat) :=
  [.dispatch, .signal 0, .dispatch, .signal 1, .dispatch]

theorem bypassed_once_busy :
    ∃ state after, run (step Nat.cast) (initial fun _ => true) busy = some state ∧
      run (step Nat.cast) state threeRounds = some after ∧ 2 ∈ after.dispatched := by
  have orderly : ∀ actions ∈ [busy, threeRounds], ∀ state,
      Respects (step Nat.cast) (Orderly Nat.cast) state actions := by
    intro actions listed state
    refine Respects.of_forall fun state action member =>
      orderly_of_injective Nat.cast_injective (fun number same => ?_) state
    subst same
    rcases List.mem_pair.mp listed with same | same <;> simp [same, busy, threeRounds] at member
  obtain ⟨state, reached, member, ready, fresh, few, after, performed, three⟩ :
      ∃ state, run (step Nat.cast) (initial fun _ => true) busy = some state ∧
        2 ∈ state.waitSet.sources ∧ state.waitSet.kernel.level (2 : Nat) = true ∧
        state.dispatched = [] ∧ state.waitSet.sources.length = 3 ∧
        ∃ after, run (step Nat.cast) state threeRounds = some after ∧
          after.dispatched.length = 3 :=
    ⟨_, rfl, by decide, rfl, rfl, rfl, _, rfl, rfl⟩
  obtain ⟨bypassing, dispatched, waits⟩ :=
    (bypassed_once (orderly busy (by simp) _) reached member ready).2 _ after performed
      (orderly threeRounds (by simp) _) (by simp [threeRounds, Leaves])
  rw [fresh, List.nil_append] at dispatched
  refine ⟨state, after, reached, performed, ?_⟩
  apply Classical.byContradiction
  intro outside
  rw [dispatched] at outside three
  obtain ⟨_, _, fewer⟩ := waits outside
  omega

end Runs

end CoreLib.LooperFairness
