/-
One wait set on its two kernels.

The same calls of `addSource` and `removeSource` are carried out on the Apple backend
and on the Linux backend.  A kqueue is a map from (ident, filter) to the parameters
of a registration, and EV_ADD overwrites them.  A timer made by `AsTimer` has no
handle on Apple, so its ident is that of -1; on Linux it allocates a timerfd when its
handle is first used.
-/

import CoreLib.Epoll
import CoreLib.System
import CoreLib.WaitSet
import CoreLib.Foundation.Runs

set_option autoImplicit false

namespace CoreLib.WaitSetBackends

open Foundation

/-- A timer with its own interval, or an I/O source with its read handle.  Distinct
I/O sources have distinct handles. -/
inductive Source where
  | timer (name : Nat) (repeatInterval : Int)
  | io (readHandle : Descriptor)
deriving DecidableEq

def Source.isTimer : Source → Bool
  | .timer .. => true
  | .io _ => false

/-! ### Apple -/

inductive Filter where
  | EVFILT_READ
  | EVFILT_TIMER
deriving DecidableEq

abbrev Key := Nat × Filter

def NOTE_NSECONDS : Nat := 4

structure Registration where
  fflags : Nat
  data : Int
  udata : Source
deriving DecidableEq

abbrev Kqueue := Key → Option Registration

/-- `LooperSource_UpdateKeventSource` with EV_ADD or EV_DELETE; the failure to delete
an absent key is ignored. -/
def LooperSource_UpdateKeventSource (queue : Kqueue) (ident : Int) (filter : Filter)
    (adding : Bool) (fflags : Nat) (data : Int) (udata : Source) : Kqueue :=
  Function.update queue (sizeOfInt ident, filter)
    (if adding then some
      { fflags := fflags
        data := data
        udata := udata }
    else none)

/-- `readHandle()` on Apple; a timer has no allocator and keeps the initial handles. -/
def readHandle : Source → Int
  | .timer .. => -1
  | .io handle => handle.val

/-- `updateInWaitSetHandle` on Apple, with the custom handler of a timer. -/
def updateKqueue (source : Source) (shouldAdd : Bool) (queue : Kqueue) : Kqueue :=
  match source with
  | .timer _ repeatInterval => LooperSource_UpdateKeventSource queue (readHandle source)
      .EVFILT_TIMER shouldAdd NOTE_NSECONDS repeatInterval source
  | .io _ => LooperSource_UpdateKeventSource queue (readHandle source)
      .EVFILT_READ shouldAdd 0 0 source

/-! ### Linux -/

/-- The kernel and the handles that sources have allocated so far. -/
structure Linux where
  epoll : Epoll Source
  handles : Source → Option Int

/-- `readHandle()` on Linux, with its lazy allocation. -/
def allocateHandle (source : Source) (linux : Linux) : Int × Linux :=
  match linux.handles source with
  | some handle => (handle, linux)
  | none =>
      match source with
      | .timer .. => (linux.epoll.allocate.1,
          { epoll := linux.epoll.allocate.2
            handles := Function.update linux.handles source (some linux.epoll.allocate.1) })
      | .io handle => (handle.val,
          { linux with handles := Function.update linux.handles source (some handle.val) })

def updateEpoll (source : Source) (shouldAdd : Bool) (linux : Linux) : Linux :=
  let used := allocateHandle source linux
  { used.2 with epoll := used.2.epoll.control shouldAdd used.1 source }

/-! ### Both -/

structure State where
  apple : WaitSet Source Kqueue
  linux : WaitSet Source Linux

inductive Action where
  | addSource (source : Source)
  | removeSource (source : Source)

/-- The numbers open before the first timer exists, among them those of every I/O
source. -/
def initial (openNumbers : List Int) : State :=
  { apple := .empty fun _ => none
    linux := .empty
      { epoll :=
          { openNumbers := openNumbers
            interest := fun _ => none }
        handles := fun _ => none } }

def Source.usable (openNumbers : List Int) : Source → Bool
  | .timer .. => true
  | .io handle => (handle.val : Int) ∈ openNumbers

def step (openNumbers : List Int) (state : State) : Action → Option State
  | .addSource source =>
      if source.usable openNumbers then some
        { apple := (state.apple.addSource updateKqueue source).2
          linux := (state.linux.addSource updateEpoll source).2 }
      else none
  | .removeSource source => some
      { apple := (state.apple.removeSource updateKqueue source).2
        linux := (state.linux.removeSource updateEpoll source).2 }

def AppleReturns (queue : Kqueue) (source : Source) : Prop :=
  ∃ key registration, queue key = some registration ∧ registration.udata = source

def LinuxReturns (linux : Linux) (source : Source) : Prop :=
  ∃ desc, linux.epoll.interest desc = some source

/-- One registration for each source, with its own parameters, and the same sources on
both backends. -/
structure Independent (state : State) : Prop where
  one : ∀ source ∈ state.apple.sources, ∃ key registration,
    (state.apple.kernel key = some registration ∧ registration.udata = source) ∧
      ∀ otherKey other, state.apple.kernel otherKey = some other → other.udata = source →
        otherKey = key ∧ other = registration
  member : ∀ source, AppleReturns state.apple.kernel source → source ∈ state.apple.sources
  interval : ∀ key registration name repeatInterval, state.apple.kernel key = some registration →
    registration.udata = .timer name repeatInterval →
      registration.fflags = NOTE_NSECONDS ∧ registration.data = repeatInterval
  same : ∀ source,
    AppleReturns state.apple.kernel source ↔ LinuxReturns state.linux.kernel source

/-- A timer is added only while no timer is in the set. -/
def AddsOnlyTimer (state : State) : Action → Prop
  | .addSource source => source.isTimer = true → source ∉ state.apple.sources →
      ∀ other ∈ state.apple.sources, other.isTimer = false
  | _ => True

/-! ### The kqueue -/

def keyOf (source : Source) : Key :=
  (sizeOfInt (readHandle source), if source.isTimer then .EVFILT_TIMER else .EVFILT_READ)

def registrationOf : Source → Registration
  | .timer name repeatInterval =>
      { fflags := NOTE_NSECONDS
        data := repeatInterval
        udata := .timer name repeatInterval }
  | .io handle =>
      { fflags := 0
        data := 0
        udata := .io handle }

theorem updateKqueue_eq (source : Source) (shouldAdd : Bool) (queue : Kqueue) :
    updateKqueue source shouldAdd queue =
      Function.update queue (keyOf source)
        (if shouldAdd then some (registrationOf source) else none) := by
  cases source <;> rfl

theorem registrationOf_udata (source : Source) : (registrationOf source).udata = source := by
  cases source <;> rfl

theorem keyOf_eq {first second : Source} (same : keyOf first = keyOf second) :
    first = second ∨ (first.isTimer = true ∧ second.isTimer = true) := by
  have numbers := congrArg Prod.fst same
  have filters := congrArg Prod.snd same
  cases first with
  | timer name repeatInterval =>
      cases second with
      | timer otherName otherInterval => exact Or.inr ⟨rfl, rfl⟩
      | io handle => cases filters
  | io handle =>
      cases second with
      | timer name repeatInterval => cases filters
      | io otherHandle =>
          change sizeOfInt (handle.val : Int) = sizeOfInt (otherHandle.val : Int) at numbers
          rw [sizeOfInt_cast (by omega), sizeOfInt_cast (by omega)] at numbers
          exact Or.inl (congrArg Source.io (Fin.ext numbers))

/-- The registration is that of a source in the set. -/
def Registers (sources : List Source) (registration : Registration) : Prop :=
  ∃ source ∈ sources, registration = registrationOf source

/-- The kqueue holds the registration of each source under its key and nothing else. -/
def KqueueSound (sources : List Source) (queue : Kqueue) : Prop :=
  Mirrors (Registers sources) (fun registration => keyOf registration.udata) queue

theorem KqueueSound.returns {sources : List Source} {queue : Kqueue}
    (sound : KqueueSound sources queue) (source : Source) :
    AppleReturns queue source ↔ source ∈ sources := by
  constructor
  · rintro ⟨key, registration, found, same⟩
    obtain ⟨⟨owner, member, equal⟩, _⟩ := (sound key registration).mp found
    rw [equal, registrationOf_udata] at same
    rw [← same]
    exact member
  · intro member
    refine ⟨keyOf source, registrationOf source, ?_, registrationOf_udata source⟩
    apply (sound _ _).mpr
    exact ⟨⟨source, member, rfl⟩, congrArg keyOf (registrationOf_udata source)⟩

theorem KqueueSound.insert {sources : List Source} {queue : Kqueue}
    (sound : KqueueSound sources queue) {source : Source} (absent : source ∉ sources)
    (only : source.isTimer = true → ∀ other ∈ sources, other.isTimer = false) :
    KqueueSound (source :: sources) (updateKqueue source true queue) := by
  have unused : ∀ registration, Registers sources registration →
      keyOf registration.udata ≠ keyOf (registrationOf source).udata := by
    rintro registration ⟨other, member, same⟩ equal
    rw [same, registrationOf_udata, registrationOf_udata] at equal
    rcases keyOf_eq equal with identical | ⟨timer, also⟩
    · rw [identical] at member
      exact absent member
    · rw [only also other member] at timer
      contradiction
  have inserted := Mirrors.insert sound (registrationOf source) unused
  rw [registrationOf_udata] at inserted
  rw [updateKqueue_eq, if_pos rfl]
  refine inserted.congr fun registration => ⟨?_, ?_⟩
  · rintro (equal | ⟨other, member, equal⟩)
    · exact ⟨source, List.mem_cons_self .., equal⟩
    · exact ⟨other, List.mem_cons_of_mem _ member, equal⟩
  · rintro ⟨other, member, equal⟩
    rcases List.mem_cons.mp member with same | old
    · rw [same] at equal
      exact Or.inl equal
    · exact Or.inr ⟨other, old, equal⟩

theorem KqueueSound.erase {sources : List Source} (distinct : sources.Nodup) {queue : Kqueue}
    (sound : KqueueSound sources queue) {source : Source} (present : source ∈ sources) :
    KqueueSound (sources.erase source) (updateKqueue source false queue) := by
  rw [updateKqueue_eq]
  refine (Mirrors.erase sound (keyOf source)).congr fun registration => ⟨?_, ?_⟩
  · rintro ⟨⟨other, member, equal⟩, different⟩
    refine ⟨other, distinct.mem_erase_iff.mpr ⟨?_, member⟩, equal⟩
    intro same
    rw [equal, registrationOf_udata, same] at different
    exact different rfl
  · rintro ⟨other, member, equal⟩
    obtain ⟨different, old⟩ := distinct.mem_erase_iff.mp member
    refine ⟨⟨other, old, equal⟩, ?_⟩
    intro same
    have kept : Registers sources (registrationOf other) := ⟨other, old, rfl⟩
    have removed : Registers sources (registrationOf source) := ⟨source, present, rfl⟩
    have both := Mirrors.injective sound kept removed
      (by rw [registrationOf_udata, registrationOf_udata, ← same, equal, registrationOf_udata])
    have udata := congrArg Registration.udata both
    rw [registrationOf_udata, registrationOf_udata] at udata
    exact different udata

/-- A second timer overwrites the registration of the first. -/
theorem KqueueSound.overwritten {sources : List Source} {queue : Kqueue}
    (sound : KqueueSound sources queue) {source other : Source} (absent : source ∉ sources)
    (timer : source.isTimer = true) (present : other ∈ sources) (also : other.isTimer = true) :
    ¬ AppleReturns (updateKqueue source true queue) other := by
  rintro ⟨key, registration, found, same⟩
  rw [updateKqueue_eq, if_pos rfl] at found
  have shared : keyOf other = keyOf source := by
    cases other with
    | io handle => contradiction
    | timer name repeatInterval =>
        cases source with
        | io handle => contradiction
        | timer otherName otherInterval => rfl
  by_cases here : key = keyOf source
  · rw [here, Function.update_self] at found
    have equal := congrArg Registration.udata (Option.some.inj found)
    rw [registrationOf_udata, same] at equal
    rw [equal] at absent
    exact absent present
  · rw [Function.update_of_ne here] at found
    obtain ⟨_, place⟩ := (sound key registration).mp found
    dsimp only at place
    rw [same, shared] at place
    exact here place.symm

/-! ### The epoll set -/

structure Handles (openNumbers : List Int) (linux : Linux) : Prop where
  base : ∀ number ∈ openNumbers, number ∈ linux.epoll.openNumbers
  opened : ∀ source handle, linux.handles source = some handle →
    handle ∈ linux.epoll.openNumbers
  timers : ∀ name repeatInterval handle, linux.handles (.timer name repeatInterval) = some handle →
    handle ∉ openNumbers
  ios : ∀ readHandle handle, linux.handles (.io readHandle) = some handle →
    handle = readHandle.val ∧ handle ∈ openNumbers
  distinct : ∀ first second handle, linux.handles first = some handle →
    linux.handles second = some handle → first = second

def number (linux : Linux) (source : Source) : Int := (linux.handles source).getD (-1)

structure EpollSound (openNumbers : List Int) (sources : List Source) (linux : Linux) :
    Prop where
  handles : Handles openNumbers linux
  handled : ∀ source ∈ sources, ∃ handle, linux.handles source = some handle
  mirrors : Mirrors (· ∈ sources) (number linux) linux.epoll.interest

theorem EpollSound.returns {openNumbers : List Int} {sources : List Source} {linux : Linux}
    (sound : EpollSound openNumbers sources linux) (source : Source) :
    LinuxReturns linux source ↔ source ∈ sources := by
  constructor
  · rintro ⟨desc, found⟩
    exact ((sound.mirrors desc source).mp found).1
  · intro member
    exact ⟨number linux source, (sound.mirrors _ source).mpr ⟨member, rfl⟩⟩

private theorem assigned {handles : Source → Option Int} {source other : Source}
    {handle found : Int}
    (here : Function.update handles source (some handle) other = some found) :
    (other = source ∧ found = handle) ∨ (other ≠ source ∧ handles other = some found) := by
  by_cases same : other = source
  · rw [same, Function.update_self] at here
    exact Or.inl ⟨same, (Option.some.inj here).symm⟩
  · rw [Function.update_of_ne same] at here
    exact Or.inr ⟨same, here⟩

theorem Handles.assign {openNumbers : List Int} {linux : Linux}
    (handles : Handles openNumbers linux) {epoll : Epoll Source} {source : Source} {handle : Int}
    (kept : ∀ number ∈ linux.epoll.openNumbers, number ∈ epoll.openNumbers)
    (opened : handle ∈ epoll.openNumbers)
    (timer : source.isTimer = true → handle ∉ openNumbers)
    (io : ∀ readHandle, source = .io readHandle → handle = readHandle.val ∧ handle ∈ openNumbers)
    (unused : ∀ other, linux.handles other ≠ some handle) :
    Handles openNumbers
      { epoll := epoll
        handles := Function.update linux.handles source (some handle) } := by
  refine ⟨fun number member => kept number (handles.base number member), ?_, ?_, ?_, ?_⟩
  · intro other found here
    rcases assigned here with ⟨_, same⟩ | ⟨_, old⟩
    · rw [same]
      exact opened
    · exact kept _ (handles.opened other found old)
  · intro name repeatInterval found here
    rcases assigned here with ⟨equal, same⟩ | ⟨_, old⟩
    · rw [same]
      exact timer (by rw [← equal]; rfl)
    · exact handles.timers name repeatInterval found old
  · intro readHandle found here
    rcases assigned here with ⟨equal, same⟩ | ⟨_, old⟩
    · rw [same]
      exact io readHandle equal.symm
    · exact handles.ios readHandle found old
  · intro first second found left right
    rcases assigned left with ⟨equalLeft, same⟩ | ⟨_, oldLeft⟩
    · rcases assigned right with ⟨equalRight, _⟩ | ⟨_, oldRight⟩
      · rw [equalLeft, equalRight]
      · rw [same] at oldRight
        exact absurd oldRight (unused second)
    · rcases assigned right with ⟨_, same⟩ | ⟨_, oldRight⟩
      · rw [same] at oldLeft
        exact absurd oldLeft (unused first)
      · exact handles.distinct first second found oldLeft oldRight

/-- The first use of a source's handle allocates it and later uses return it. -/
theorem allocateHandle_spec {openNumbers : List Int} {linux : Linux}
    (handles : Handles openNumbers linux) {source : Source}
    (usable : source.usable openNumbers = true) :
    Handles openNumbers (allocateHandle source linux).2 ∧
      (allocateHandle source linux).2.handles source = some (allocateHandle source linux).1 ∧
      (allocateHandle source linux).2.epoll.interest = linux.epoll.interest ∧
      ∀ other, other ≠ source →
        (allocateHandle source linux).2.handles other = linux.handles other := by
  cases held : linux.handles source with
  | some handle =>
      simp only [allocateHandle, held]
      exact ⟨handles, trivial, trivial, fun _ _ => trivial⟩
  | none =>
      cases source with
      | timer name repeatInterval =>
          have allocated : allocateHandle (.timer name repeatInterval) linux =
              (linux.epoll.allocate.1,
                { epoll := linux.epoll.allocate.2
                  handles := Function.update linux.handles (.timer name repeatInterval)
                    (some linux.epoll.allocate.1) }) := by
            simp only [allocateHandle, held]
          have fresh : linux.epoll.allocate.1 ∉ linux.epoll.openNumbers :=
            (lowestFree_spec linux.epoll.openNumbers).2
          rw [allocated]
          refine ⟨handles.assign (fun _ => List.mem_cons_of_mem _) (List.mem_cons_self ..)
            (fun _ member => fresh (handles.base _ member)) nofun
            (fun other old => fresh (handles.opened other _ old)),
            Function.update_self .., rfl, fun other different =>
            Function.update_of_ne different ..⟩
      | io readHandle =>
          have member : (readHandle.val : Int) ∈ openNumbers := of_decide_eq_true usable
          have allocated : allocateHandle (.io readHandle) linux =
              ((readHandle.val : Int),
                { linux with
                  handles := Function.update linux.handles (.io readHandle)
                    (some (readHandle.val : Int)) }) := by
            simp only [allocateHandle, held]
          have unused : ∀ other, linux.handles other ≠ some (readHandle.val : Int) := by
            intro other old
            cases other with
            | timer name repeatInterval => exact handles.timers name repeatInterval _ old member
            | io otherHandle =>
                have equal := (handles.ios otherHandle _ old).1
                have same : readHandle = otherHandle := Fin.ext (Int.ofNat.inj equal)
                rw [← same, held] at old
                contradiction
          rw [allocated]
          refine ⟨handles.assign (fun _ => id) (handles.base _ member) nofun ?_ unused,
            Function.update_self .., rfl, fun other different =>
            Function.update_of_ne different ..⟩
          intro other same
          cases same
          exact ⟨rfl, member⟩

theorem EpollSound.insert {openNumbers : List Int} {sources : List Source} {linux : Linux}
    (sound : EpollSound openNumbers sources linux) {source : Source} (absent : source ∉ sources)
    (usable : source.usable openNumbers = true) :
    EpollSound openNumbers (source :: sources) (updateEpoll source true linux) := by
  obtain ⟨handles, held, interest, others⟩ := allocateHandle_spec sound.handles usable
  have opened := handles.opened source _ held
  have different : ∀ other ∈ sources, other ≠ source := by
    intro other member same
    rw [same] at member
    exact absent member
  have mirrors : Mirrors (· ∈ sources) (number (allocateHandle source linux).2)
      (allocateHandle source linux).2.epoll.interest := by
    rw [interest]
    refine sound.mirrors.rekey fun other member => ?_
    rw [number, number, others other (different other member)]
  have own : number (allocateHandle source linux).2 source = (allocateHandle source linux).1 := by
    rw [number, held]
    rfl
  have unused : ∀ other ∈ sources, number (allocateHandle source linux).2 other ≠
      number (allocateHandle source linux).2 source := by
    intro other member same
    obtain ⟨handle, found⟩ := sound.handled other member
    rw [← others other (different other member)] at found
    rw [own, number, found] at same
    change handle = _ at same
    rw [same] at found
    exact different other member (handles.distinct other source _ found held)
  have inserted := mirrors.insert source unused
  rw [own] at inserted unused
  have updated : updateEpoll source true linux =
      { (allocateHandle source linux).2 with
        epoll := { (allocateHandle source linux).2.epoll with
          interest := Function.update (allocateHandle source linux).2.epoll.interest
            (allocateHandle source linux).1 (some source) } } := by
    simp only [updateEpoll, Epoll.control_add opened (mirrors.free unused)]
  rw [updated]
  refine ⟨⟨handles.base, handles.opened, handles.timers, handles.ios, handles.distinct⟩, ?_,
    inserted.congr fun other => List.mem_cons.symm⟩
  intro other member
  rcases List.mem_cons.mp member with same | old
  · rw [same]
    exact ⟨_, held⟩
  · obtain ⟨handle, found⟩ := sound.handled other old
    exact ⟨handle, (others other (different other old)).trans found⟩

theorem EpollSound.erase {openNumbers : List Int} {sources : List Source}
    (distinct : sources.Nodup) {linux : Linux} (sound : EpollSound openNumbers sources linux)
    {source : Source} (present : source ∈ sources) :
    EpollSound openNumbers (sources.erase source) (updateEpoll source false linux) := by
  obtain ⟨handle, held⟩ := sound.handled source present
  have opened := sound.handles.opened source handle held
  have own : number linux source = handle := by
    rw [number, held]
    rfl
  have updated : updateEpoll source false linux =
      { linux with
        epoll := { linux.epoll with
          interest := Function.update linux.epoll.interest handle none } } := by
    simp only [updateEpoll, allocateHandle, held, Epoll.control_delete opened]
  have handles := sound.handles
  rw [updated]
  refine ⟨⟨handles.base, handles.opened, handles.timers, handles.ios, handles.distinct⟩,
    fun other member => sound.handled other (List.mem_of_mem_erase member), ?_⟩
  refine (sound.mirrors.erase handle).congr fun other => ?_
  rw [distinct.mem_erase_iff, and_comm]
  refine and_congr_left fun member => ?_
  constructor
  · intro different same
    rw [same] at different
    exact different own
  · intro different same
    exact different (sound.mirrors.injective member present (same.trans own.symm))

/-! ### Both backends along a run -/

structure Sound (openNumbers : List Int) (state : State) : Prop where
  sources : state.linux.sources = state.apple.sources
  kqueue : KqueueSound state.apple.sources state.apple.kernel
  epoll : EpollSound openNumbers state.apple.sources state.linux.kernel

theorem initial_sound (openNumbers : List Int) : Sound openNumbers (initial openNumbers) :=
  { sources := rfl
    kqueue := mirrors_empty fun _ ⟨_, member, _⟩ => absurd member List.not_mem_nil
    epoll :=
      { handles := ⟨fun _ => id, nofun, nofun, nofun, nofun⟩
        handled := nofun
        mirrors := mirrors_empty fun _ => List.not_mem_nil } }

theorem Sound.independent {openNumbers : List Int} {state : State}
    (sound : Sound openNumbers state) : Independent state := by
  refine ⟨?_, fun source => (sound.kqueue.returns source).mp, ?_, ?_⟩
  · intro source member
    have found : state.apple.kernel (keyOf source) = some (registrationOf source) := by
      apply (sound.kqueue _ _).mpr
      exact ⟨⟨source, member, rfl⟩, congrArg keyOf (registrationOf_udata source)⟩
    refine ⟨keyOf source, registrationOf source, ⟨found, registrationOf_udata source⟩, ?_⟩
    intro otherKey other there same
    obtain ⟨⟨owner, _, equal⟩, place⟩ := (sound.kqueue otherKey other).mp there
    dsimp only at place
    rw [same] at place
    rw [equal, registrationOf_udata] at same
    rw [same] at equal
    exact ⟨place.symm, equal⟩
  · intro key registration name repeatInterval found same
    obtain ⟨⟨owner, _, equal⟩, _⟩ := (sound.kqueue key registration).mp found
    rw [equal, registrationOf_udata] at same
    rw [equal, same]
    exact ⟨rfl, rfl⟩
  · intro source
    rw [sound.kqueue.returns source, sound.epoll.returns source]

theorem step_sound {openNumbers : List Int} {state next : State} {action : Action}
    (sound : Sound openNumbers state) (only : AddsOnlyTimer state action)
    (enabled : step openNumbers state action = some next) : Sound openNumbers next := by
  cases action with
  | addSource source =>
      simp only [step] at enabled
      split at enabled
      · rename_i usable
        cases enabled
        rcases WaitSet.addSource_both sound.sources updateKqueue updateEpoll source with
          ⟨_, apple, linux⟩ | ⟨absent, appleSources, appleKernel, linuxSources, linuxKernel⟩
        · rw [apple, linux]
          exact sound
        · refine ⟨linuxSources.trans appleSources.symm, ?_, ?_⟩
          · rw [appleSources, appleKernel]
            exact sound.kqueue.insert absent fun timer => only timer absent
          · rw [appleSources, linuxKernel]
            exact sound.epoll.insert absent usable
      · contradiction
  | removeSource source =>
      cases enabled
      rcases WaitSet.removeSource_both sound.sources updateKqueue updateEpoll source with
        ⟨_, apple, linux⟩ | ⟨present, appleSources, appleKernel, linuxSources, linuxKernel⟩
      · rw [apple, linux]
        exact sound
      · refine ⟨linuxSources.trans appleSources.symm, ?_, ?_⟩
        · rw [appleSources, appleKernel]
          exact sound.kqueue.erase state.apple.distinct present
        · rw [appleSources, linuxKernel]
          exact sound.epoll.erase state.apple.distinct present

theorem second_timer_not_independent {openNumbers : List Int} {state next : State}
    {action : Action} (sound : Sound openNumbers state) (second : ¬ AddsOnlyTimer state action)
    (enabled : step openNumbers state action = some next) : ¬ Independent next := by
  cases action with
  | addSource source =>
      simp only [AddsOnlyTimer, not_forall] at second
      obtain ⟨timer, absent, other, present, also⟩ := second
      rw [Bool.not_eq_false] at also
      simp only [step] at enabled
      split at enabled
      · cases enabled
        rcases WaitSet.addSource_cases updateKqueue state.apple source with
          ⟨found, _⟩ | ⟨_, _, appleSources, appleKernel⟩
        · exact absurd found absent
        · intro independent
          have member : other ∈ (state.apple.addSource updateKqueue source).2.sources := by
            rw [appleSources]
            exact List.mem_cons_of_mem _ present
          obtain ⟨key, registration, ⟨there, same⟩, _⟩ := independent.one other member
          dsimp only at there
          rw [appleKernel] at there
          exact sound.kqueue.overwritten absent timer present also ⟨key, registration, there, same⟩
      · contradiction
  | removeSource source => exact absurd trivial second

/-- Along every run, the two backends keep the same independent registrations exactly
as long as no timer is added while another timer is in the set. -/
theorem independent_iff (openNumbers : List Int) (actions : List Action) :
    Always (step openNumbers) Independent (initial openNumbers) actions ↔
      Respects (step openNumbers) AddsOnlyTimer (initial openNumbers) actions :=
  always_iff_respects (fun _ => True) (Sound openNumbers)
    (fun _ _ _ sound _ only enabled => step_sound sound only enabled)
    (fun _ sound => sound.independent)
    (fun _ _ _ sound second enabled => second_timer_not_independent sound second enabled)
    (initial_sound openNumbers) fun _ _ => trivial

def twoTimersRun : List Action := [.addSource (.timer 0 1000), .addSource (.timer 1 2000)]

theorem second_timer_overwrites :
    (∃ final, run (step [0, 1, 2, 3]) (initial [0, 1, 2, 3]) twoTimersRun = some final ∧
      final.apple.sources = [.timer 1 2000, .timer 0 1000] ∧
      (∀ source, AppleReturns final.apple.kernel source → source = .timer 1 2000) ∧
      final.linux.kernel.epoll.interest 4 = some (.timer 0 1000)) ∧
    ¬ Always (step [0, 1, 2, 3]) Independent (initial [0, 1, 2, 3]) twoTimersRun := by
  have reached : ∃ final, run (step [0, 1, 2, 3]) (initial [0, 1, 2, 3]) twoTimersRun =
      some final ∧ final.apple.sources = [.timer 1 2000, .timer 0 1000] ∧
      (∀ source, AppleReturns final.apple.kernel source → source = .timer 1 2000) ∧
      final.linux.kernel.epoll.interest 4 = some (.timer 0 1000) := by
    refine ⟨_, rfl, rfl, ?_, rfl⟩
    rintro source ⟨key, registration, found, same⟩
    change updateKqueue (.timer 1 2000) true (updateKqueue (.timer 0 1000) true fun _ => none) key
      = some registration at found
    rw [updateKqueue_eq, updateKqueue_eq] at found
    by_cases here : key = keyOf (.timer 1 2000)
    · rw [here, Function.update_self] at found
      cases found
      exact same.symm
    · rw [Function.update_of_ne here,
        Function.update_of_ne (show key ≠ keyOf (.timer 0 1000) from here)] at found
      contradiction
  refine ⟨reached, fun always => ?_⟩
  obtain ⟨final, performed, sources, only, _⟩ := reached
  have independent := always.final performed
  have member : Source.timer 0 1000 ∈ final.apple.sources := by
    rw [sources]
    exact List.mem_cons_of_mem _ (List.mem_cons_self ..)
  obtain ⟨key, registration, entry, _⟩ := independent.one _ member
  have overwritten := only _ ⟨key, registration, entry⟩
  cases overwritten

end CoreLib.WaitSetBackends
