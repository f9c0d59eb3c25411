/-
What a wait set needs of its kernel.

A source of any kind has a handle allocator, which runs when the handle is first used,
and on Apple a timer has a handler of its own.  Sources may share a handle, and a
registration may fail or be overwritten.  What both kernels keep is the one thing that
`wait` relies on: every registration belongs to a source that was added and not
removed since.
-/

import CoreLib.Epoll
import CoreLib.System
import CoreLib.WaitSet
import CoreLib.WaitSetBackends

set_option autoImplicit false

namespace CoreLib.WaitSetPlatforms

open Foundation
open WaitSetBackends (Filter NOTE_NSECONDS)

/-- The members of a LooperSource that `updateInWaitSetHandle` uses. -/
structure Traits where
  /-- `_handlesAllocator` in a process with these open numbers: the read handle and the
  numbers that it opens. -/
  handlesAllocator : List Int → Int × List Int
  /-- The interval of a source made by `AsTimer`. -/
  repeatInterval : Option Int

def Traits.nullAllocator : List Int → Int × List Int := fun _ => (-1, [])

def Traits.AsTrivial : Traits :=
  { handlesAllocator := fun openNumbers =>
      let reading := lowestFree openNumbers
      (reading, [lowestFree (reading :: openNumbers), reading])
    repeatInterval := none }

/-- The open numbers of the process and the handles that sources have allocated. -/
structure Handles (Source : Type) where
  openNumbers : List Int
  allocated : Source → Option Int

variable {Source : Type} [DecidableEq Source]

/-- `LooperSource::readHandle`, with the lazy allocation of `handles()`. -/
def Handles.readHandle (traits : Source → Traits) (source : Source) (handles : Handles Source) :
    Int × Handles Source :=
  match handles.allocated source with
  | some handle => (handle, handles)
  | none =>
      let made := (traits source).handlesAllocator handles.openNumbers
      (made.1,
        { openNumbers := made.2 ++ handles.openNumbers
          allocated := Function.update handles.allocated source (some made.1) })

/-- A kernel object behind `_handle`, what `updateInWaitSetHandle` does to it, and the
source that `wait` returns when the registration under a key is ready. -/
structure Platform (Source : Type) where
  Kernel : Type
  Key : Type
  created : Kernel
  update : Source → Bool → Kernel → Kernel
  wait : Kernel → Key → Option Source

/-- What `wait` relies on, as a relation between the members of the set and the kernel. -/
structure Platform.Follows (platform : Platform Source)
    (follows : (Source → Prop) → platform.Kernel → Prop) : Prop where
  created : follows (fun _ => False) platform.created
  mono : ∀ {members others : Source → Prop} {kernel : platform.Kernel}, follows members kernel →
    (∀ source, members source → others source) → follows others kernel
  added : ∀ {members : Source → Prop} {kernel : platform.Kernel}, follows members kernel →
    ∀ source, follows (fun member => member = source ∨ members member)
      (platform.update source true kernel)
  removed : ∀ {members : Source → Prop} {kernel : platform.Kernel}, follows members kernel →
    ∀ source, follows (fun member => member ≠ source ∧ members member)
      (platform.update source false kernel)
  waits : ∀ {members : Source → Prop} {kernel : platform.Kernel}, follows members kernel →
    ∀ key source, platform.wait kernel key = some source → members source

/-! ### Linux -/

structure LinuxKernel (Source : Type) where
  handles : Handles Source
  interest : Int → Option Source

/-- `updateInWaitSetHandle` on Linux, where no source has a handler of its own. -/
def LinuxKernel.updateInWaitSetHandle (traits : Source → Traits) (source : Source)
    (shouldAdd : Bool) (kernel : LinuxKernel Source) : LinuxKernel Source :=
  let used := kernel.handles.readHandle traits source
  let epoll : Epoll Source :=
    { openNumbers := used.2.openNumbers
      interest := kernel.interest }
  { handles := used.2
    interest := (epoll.control shouldAdd used.1 source).interest }

def linux (traits : Source → Traits) (openNumbers : List Int) : Platform Source :=
  { Kernel := LinuxKernel Source
    Key := Int
    created :=
      { handles :=
          { openNumbers := openNumbers
            allocated := fun _ => none }
        interest := fun _ => none }
    update := LinuxKernel.updateInWaitSetHandle traits
    wait := fun kernel desc => kernel.interest desc }

/-! ### Apple -/

structure Knote (Source : Type) where
  fflags : Nat
  data : Int
  udata : Source

structure AppleKernel (Source : Type) where
  handles : Handles Source
  queue : Nat × Filter → Option (Knote Source)

/-- `LooperSource_UpdateKeventSource` with EV_ADD or EV_DELETE.  A filter on a closed
number fails, and the failure is ignored. -/
def AppleKernel.LooperSource_UpdateKeventSource (kernel : AppleKernel Source) (ident : Int)
    (filter : Filter) (adding : Bool) (fflags : Nat) (data : Int) (udata : Source) :
    AppleKernel Source :=
  if filter = .EVFILT_READ ∧ ident ∉ kernel.handles.openNumbers then kernel
  else
    { kernel with
      queue := Function.update kernel.queue (sizeOfInt ident, filter)
        (if adding then some
          { fflags := fflags
            data := data
            udata := udata }
        else none) }

/-- `updateInWaitSetHandle` on Apple, with the handler that `AsTimer` installs. -/
def AppleKernel.updateInWaitSetHandle (traits : Source → Traits) (source : Source)
    (shouldAdd : Bool) (kernel : AppleKernel Source) : AppleKernel Source :=
  let used := kernel.handles.readHandle traits source
  let current := { kernel with handles := used.2 }
  match (traits source).repeatInterval with
  | some repeatInterval => current.LooperSource_UpdateKeventSource used.1 .EVFILT_TIMER shouldAdd
      NOTE_NSECONDS repeatInterval source
  | none => current.LooperSource_UpdateKeventSource used.1 .EVFILT_READ shouldAdd 0 0 source

def apple (traits : Source → Traits) (openNumbers : List Int) : Platform Source :=
  { Kernel := AppleKernel Source
    Key := Nat × Filter
    created :=
      { handles :=
          { openNumbers := openNumbers
            allocated := fun _ => none }
        queue := fun _ => none }
    update := AppleKernel.updateInWaitSetHandle traits
    wait := fun kernel key => (kernel.queue key).map Knote.udata }

/-! ### Handles -/

theorem Handles.readHandle_keeps (traits : Source → Traits) (source : Source)
    (handles : Handles Source) :
    (handles.readHandle traits source).2.allocated source =
        some (handles.readHandle traits source).1 ∧
      (∀ other handle, handles.allocated other = some handle →
        (handles.readHandle traits source).2.allocated other = some handle) ∧
      ∀ number ∈ handles.openNumbers, number ∈ (handles.readHandle traits source).2.openNumbers := by
  cases held : handles.allocated source with
  | some handle =>
      simp only [Handles.readHandle, held]
      exact ⟨trivial, fun _ _ found => found, fun _ member => member⟩
  | none =>
      simp only [Handles.readHandle, held]
      refine ⟨Function.update_self .., ?_, fun _ => List.mem_append_right _⟩
      intro other handle found
      rw [Function.update_of_ne]
      · exact found
      · intro same
        rw [same, held] at found
        contradiction

/-! ### What the kernels register -/

section Registrations

variable {traits : Source → Traits} {members : Source → Prop} {handles : Handles Source}

def LinuxKernel.keyOf (handles : Handles Source) (source : Source) : Option Int :=
  (handles.allocated source).filter fun handle => handle ∈ handles.openNumbers

def LinuxKernel.Follows (members : Source → Prop) (kernel : LinuxKernel Source) : Prop :=
  Within members (keyOf kernel.handles) kernel.interest

omit [DecidableEq Source] in
theorem LinuxKernel.keyOf_eq {source : Source} {number : Int} :
    keyOf handles source = some number ↔
      handles.allocated source = some number ∧ number ∈ handles.openNumbers := by
  rw [keyOf, Option.filter_eq_some_iff, decide_eq_true_iff]

theorem LinuxKernel.keyOf_kept (traits : Source → Traits) (source : Source) {other : Source}
    {number : Int} (own : keyOf handles other = some number) :
    keyOf (handles.readHandle traits source).2 other = some number := by
  obtain ⟨_, kept, opened⟩ := handles.readHandle_keeps traits source
  obtain ⟨allocated, member⟩ := keyOf_eq.mp own
  exact keyOf_eq.mpr ⟨kept other number allocated, opened number member⟩

theorem LinuxKernel.Follows.added {kernel : LinuxKernel Source}
    (follows : LinuxKernel.Follows members kernel) (source : Source) :
    LinuxKernel.Follows (fun member => member = source ∨ members member)
      (kernel.updateInWaitSetHandle traits source true) := by
  have within := Within.rekey follows fun _ _ => LinuxKernel.keyOf_kept traits source
  rcases Epoll.control_add_cases
      { openNumbers := (kernel.handles.readHandle traits source).2.openNumbers
        interest := kernel.interest }
      (kernel.handles.readHandle traits source).1 source with same | ⟨opened, registered⟩
  · simp only [LinuxKernel.Follows, LinuxKernel.updateInWaitSetHandle, same]
    exact within.mono fun _ => Or.inr
  · simp only [LinuxKernel.Follows, LinuxKernel.updateInWaitSetHandle, registered]
    exact within.write (LinuxKernel.keyOf_eq.mpr
      ⟨(kernel.handles.readHandle_keeps traits source).1, opened⟩)

theorem LinuxKernel.Follows.removed {kernel : LinuxKernel Source}
    (follows : LinuxKernel.Follows members kernel) (source : Source) :
    LinuxKernel.Follows (fun member => member ≠ source ∧ members member)
      (kernel.updateInWaitSetHandle traits source false) := by
  have within := Within.rekey follows fun _ _ => LinuxKernel.keyOf_kept traits source
  have own := (kernel.handles.readHandle_keeps traits source).1
  rcases Epoll.control_delete_cases
      { openNumbers := (kernel.handles.readHandle traits source).2.openNumbers
        interest := kernel.interest }
      (kernel.handles.readHandle traits source).1 source with ⟨closed, same⟩ | ⟨opened, cleared⟩
  · -- the deletion fails, and the source was never registered
    simp only [LinuxKernel.Follows, LinuxKernel.updateInWaitSetHandle, same]
    apply within.keyless
    rw [LinuxKernel.keyOf, own]
    exact Option.filter_eq_none_iff.mpr fun handle equal => by
      cases equal
      simpa using closed
  · simp only [LinuxKernel.Follows, LinuxKernel.updateInWaitSetHandle, cleared]
    exact within.delete (LinuxKernel.keyOf_eq.mpr ⟨own, opened⟩)

theorem linux_follows (traits : Source → Traits) (openNumbers : List Int) :
    (linux traits openNumbers).Follows LinuxKernel.Follows where
  created := within_empty _ _
  mono := Within.mono
  added := LinuxKernel.Follows.added
  removed := LinuxKernel.Follows.removed
  waits := fun follows key source found => (follows key source found).1

def filterOf (traits : Source → Traits) (source : Source) : Filter :=
  if (traits source).repeatInterval.isSome then .EVFILT_TIMER else .EVFILT_READ

def AppleKernel.keyOf (traits : Source → Traits) (handles : Handles Source) (source : Source) :
    Option (Nat × Filter) :=
  ((handles.allocated source).filter fun handle =>
    filterOf traits source = .EVFILT_TIMER ∨ handle ∈ handles.openNumbers).map fun handle =>
      (sizeOfInt handle, filterOf traits source)

def AppleKernel.Follows (traits : Source → Traits) (members : Source → Prop)
    (kernel : AppleKernel Source) : Prop :=
  Within members (keyOf traits kernel.handles) (Option.map Knote.udata ∘ kernel.queue)

theorem AppleKernel.keyOf_kept (traits : Source → Traits) (source : Source) {other : Source}
    {key : Nat × Filter} (own : keyOf traits handles other = some key) :
    keyOf traits (handles.readHandle traits source).2 other = some key := by
  obtain ⟨_, kept, opened⟩ := handles.readHandle_keeps traits source
  obtain ⟨handle, registers, same⟩ := Option.map_eq_some_iff.mp own
  obtain ⟨allocated, allowed⟩ := Option.filter_eq_some_iff.mp registers
  apply Option.map_eq_some_iff.mpr
  refine ⟨handle, Option.filter_eq_some_iff.mpr ⟨kept other handle allocated, ?_⟩, same⟩
  rcases of_decide_eq_true allowed with timer | member
  · exact decide_eq_true (Or.inl timer)
  · exact decide_eq_true (Or.inr (opened handle member))

/-- The entry under the source's key is written or deleted; without a key nothing is. -/
theorem AppleKernel.update_cases (kernel : AppleKernel Source) (traits : Source → Traits)
    (source : Source)
    (shouldAdd : Bool) :
    (kernel.updateInWaitSetHandle traits source shouldAdd).handles =
        (kernel.handles.readHandle traits source).2 ∧
      ((keyOf traits (kernel.handles.readHandle traits source).2 source = none ∧
          (kernel.updateInWaitSetHandle traits source shouldAdd).queue = kernel.queue) ∨
        ∃ key knote, keyOf traits (kernel.handles.readHandle traits source).2 source = some key ∧
          knote.udata = source ∧
          (kernel.updateInWaitSetHandle traits source shouldAdd).queue =
            Function.update kernel.queue key (if shouldAdd then some knote else none)) := by
  have own := (kernel.handles.readHandle_keeps traits source).1
  cases interval : (traits source).repeatInterval with
  | some repeatInterval =>
      have timer : filterOf traits source = .EVFILT_TIMER := by
        rw [filterOf, interval]
        rfl
      simp only [updateInWaitSetHandle, LooperSource_UpdateKeventSource, interval, keyOf, own, timer]
      exact ⟨rfl, Or.inr ⟨_,
        { fflags := NOTE_NSECONDS
          data := repeatInterval
          udata := source }, rfl, rfl, rfl⟩⟩
  | none =>
      have reads : filterOf traits source = .EVFILT_READ := by
        rw [filterOf, interval]
        rfl
      simp only [updateInWaitSetHandle, LooperSource_UpdateKeventSource, interval, keyOf, own, reads]
      by_cases opened : (kernel.handles.readHandle traits source).1 ∈
          (kernel.handles.readHandle traits source).2.openNumbers
      · rw [if_neg fun failed => failed.2 opened]
        refine ⟨rfl, Or.inr ⟨_,
          { fflags := 0
            data := 0
            udata := source }, ?_, rfl, rfl⟩⟩
        rw [Option.filter_some, if_pos (decide_eq_true (Or.inr opened))]
        rfl
      · rw [if_pos ⟨trivial, opened⟩]
        refine ⟨rfl, Or.inl ⟨?_, rfl⟩⟩
        rw [Option.filter_some, if_neg]
        · rfl
        · simpa using opened

theorem AppleKernel.Follows.added {kernel : AppleKernel Source}
    (follows : AppleKernel.Follows traits members kernel) (source : Source) :
    AppleKernel.Follows traits (fun member => member = source ∨ members member)
      (kernel.updateInWaitSetHandle traits source true) := by
  have within := Within.rekey follows fun _ _ => AppleKernel.keyOf_kept traits source
  obtain ⟨handles, ⟨_, same⟩ | ⟨key, knote, own, udata, written⟩⟩ :=
    kernel.update_cases traits source true
  · simp only [AppleKernel.Follows, handles, same]
    exact within.mono fun _ => Or.inr
  · rw [if_pos rfl] at written
    simp only [AppleKernel.Follows, handles, written, Function.comp_update]
    rw [Option.map_some, udata]
    exact within.write own

theorem AppleKernel.Follows.removed {kernel : AppleKernel Source}
    (follows : AppleKernel.Follows traits members kernel) (source : Source) :
    AppleKernel.Follows traits (fun member => member ≠ source ∧ members member)
      (kernel.updateInWaitSetHandle traits source false) := by
  have within := Within.rekey follows fun _ _ => AppleKernel.keyOf_kept traits source
  obtain ⟨handles, ⟨without, same⟩ | ⟨key, knote, own, _, deleted⟩⟩ :=
    kernel.update_cases traits source false
  · simp only [AppleKernel.Follows, handles, same]
    exact within.keyless without
  · simp only [AppleKernel.Follows, handles, deleted, Function.comp_update]
    exact within.delete own

theorem apple_follows (traits : Source → Traits) (openNumbers : List Int) :
    (apple traits openNumbers).Follows (AppleKernel.Follows traits) where
  created := within_empty _ _
  mono := Within.mono
  added := AppleKernel.Follows.added
  removed := AppleKernel.Follows.removed
  waits := fun follows key source found => (follows key source found).1

end Registrations

/-! ### Timers and I/O sources -/

/-- The sources of WaitSetBackends on Linux, where each timer opens a timerfd. -/
def linuxTraits : WaitSetBackends.Source → Traits
  | .timer _ repeatInterval =>
      { handlesAllocator := fun openNumbers => (lowestFree openNumbers, [lowestFree openNumbers])
        repeatInterval := some repeatInterval }
  | .io readHandle =>
      { handlesAllocator := fun _ => (readHandle.val, [])
        repeatInterval := none }

def ofLinux (kernel : WaitSetBackends.Linux) : LinuxKernel WaitSetBackends.Source :=
  { handles :=
      { openNumbers := kernel.epoll.openNumbers
        allocated := kernel.handles }
    interest := kernel.epoll.interest }

theorem ofLinux_allocateHandle (source : WaitSetBackends.Source) (kernel : WaitSetBackends.Linux) :
    (ofLinux kernel).handles.readHandle linuxTraits source =
        ((WaitSetBackends.allocateHandle source kernel).1,
          (ofLinux (WaitSetBackends.allocateHandle source kernel).2).handles) ∧
      (WaitSetBackends.allocateHandle source kernel).2.epoll.interest = kernel.epoll.interest := by
  unfold Handles.readHandle WaitSetBackends.allocateHandle
  cases held : kernel.handles source with
  | some handle => simp [ofLinux, held]
  | none => cases source <;> simp [ofLinux, held, linuxTraits, Epoll.allocate]

theorem ofLinux_updateEpoll (source : WaitSetBackends.Source) (shouldAdd : Bool)
    (kernel : WaitSetBackends.Linux) :
    (ofLinux kernel).updateInWaitSetHandle linuxTraits source shouldAdd =
      ofLinux (WaitSetBackends.updateEpoll source shouldAdd kernel) := by
  obtain ⟨handles, interest⟩ := ofLinux_allocateHandle source kernel
  unfold LinuxKernel.updateInWaitSetHandle WaitSetBackends.updateEpoll
  rw [handles]
  simp only [ofLinux, Epoll.control_openNumbers]
  rw [← interest]

/-- On Apple a timer has no allocator. -/
def appleTraits : WaitSetBackends.Source → Traits
  | .timer _ repeatInterval =>
      { handlesAllocator := Traits.nullAllocator
        repeatInterval := some repeatInterval }
  | .io readHandle =>
      { handlesAllocator := fun _ => (readHandle.val, [])
        repeatInterval := none }

def ofRegistration (registration : WaitSetBackends.Registration) : Knote WaitSetBackends.Source :=
  { fflags := registration.fflags
    data := registration.data
    udata := registration.udata }

/-- Handles are those of WaitSetBackends, and the kqueues are the same. -/
structure AgreesWith (queue : WaitSetBackends.Kqueue) (kernel : AppleKernel WaitSetBackends.Source) :
    Prop where
  queue : kernel.queue = Option.map ofRegistration ∘ queue
  handles : ∀ source handle, kernel.handles.allocated source = some handle →
    handle = WaitSetBackends.readHandle source

namespace AgreesWith

variable {queue : WaitSetBackends.Kqueue} {kernel : AppleKernel WaitSetBackends.Source}

theorem readHandle (agrees : AgreesWith queue kernel) (source : WaitSetBackends.Source) :
    (kernel.handles.readHandle appleTraits source).1 = WaitSetBackends.readHandle source ∧
      ∀ other handle, (kernel.handles.readHandle appleTraits source).2.allocated other =
        some handle → handle = WaitSetBackends.readHandle other := by
  cases held : kernel.handles.allocated source with
  | some handle =>
      simp only [Handles.readHandle, held]
      exact ⟨agrees.handles source handle held, agrees.handles⟩
  | none =>
      have made : ((appleTraits source).handlesAllocator kernel.handles.openNumbers).1 =
          WaitSetBackends.readHandle source := by
        cases source <;> rfl
      simp only [Handles.readHandle, held]
      refine ⟨made, fun other handle found => ?_⟩
      by_cases same : other = source
      · rw [same, Function.update_self, made] at found
        rw [same]
        exact (Option.some.inj found).symm
      · rw [Function.update_of_ne same] at found
        exact agrees.handles other handle found

/-- The update of WaitSetBackends is this one at its own sources, as long as the numbers
of its I/O sources are open. -/
theorem update (agrees : AgreesWith queue kernel) (source : WaitSetBackends.Source)
    (shouldAdd : Bool)
    (usable : ∀ handle, source = .io handle → (handle.val : Int) ∈ kernel.handles.openNumbers) :
    AgreesWith (WaitSetBackends.updateKqueue source shouldAdd queue)
      (kernel.updateInWaitSetHandle appleTraits source shouldAdd) := by
  obtain ⟨number, handles⟩ := agrees.readHandle source
  have opened := (kernel.handles.readHandle_keeps appleTraits source).2.2
  refine ⟨?_, ?_⟩
  · cases source with
    | timer name repeatInterval =>
        simp only [AppleKernel.updateInWaitSetHandle, appleTraits,
          AppleKernel.LooperSource_UpdateKeventSource, WaitSetBackends.updateKqueue,
          WaitSetBackends.LooperSource_UpdateKeventSource, Function.comp_update]
        rw [if_neg fun failed => absurd failed.1 (by decide)]
        simp only [number, agrees.queue]
        cases shouldAdd <;> rfl
    | io handle =>
        simp only [AppleKernel.updateInWaitSetHandle, appleTraits,
          AppleKernel.LooperSource_UpdateKeventSource, WaitSetBackends.updateKqueue,
          WaitSetBackends.LooperSource_UpdateKeventSource, Function.comp_update]
        have open_ := opened _ (usable handle rfl)
        change WaitSetBackends.readHandle (.io handle) ∈ _ at open_
        rw [← number] at open_
        rw [if_neg fun failed => failed.2 open_]
        simp only [number, agrees.queue]
        cases shouldAdd <;> rfl
  · rw [(kernel.update_cases appleTraits source shouldAdd).1]
    exact handles

end AgreesWith

end CoreLib.WaitSetPlatforms
