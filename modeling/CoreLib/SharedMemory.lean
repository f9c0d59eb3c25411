/-
The life cycle of SharedMemory objects.

The constructor acquires a descriptor, sets its size and maps it; the `failure` label
unwinds over the members as they are at that point.  A failed CL_CHECK has no result.
The kernel keeps the descriptors and the mappings, and the world records which of them
were acquired and released by the objects of one process.
-/

import CoreLib.Foundation.Custody
import CoreLib.Foundation.Runs
import CoreLib.SharedMemoryBacking

set_option autoImplicit false

namespace CoreLib

open Foundation

/-- The members of the class; a null `_address` is 0. -/
structure SharedMemory where
  ready : Bool
  address : Nat
  handle : Int
  size : Nat
deriving DecidableEq, Repr

namespace SharedMemory

/-- The members before the first step and after every release. -/
def blank : SharedMemory :=
  { ready := false
    address := 0
    handle := -1
    size := 0 }

def MAP_FAILED : Nat := 2 ^ 64 - 1

abbrev Address := { address : Nat // address ≠ 0 ∧ address ≠ MAP_FAILED }

structure Region where
  object : OpenFile
  size : Nat
deriving DecidableEq, Repr

structure Kernel where
  space : SharedSpace
  mappings : Nat → Option Region
  opened : List (Int × OpenFile)
  closed : List (Int × OpenFile)
  mapped : List (Nat × Region)
  unmapped : List (Nat × Region)

/-- Successive results of one call up to the first that is not EINTR. -/
inductive Retried where
  | settled (result : SysResult) (done : ¬ result.Interrupted)
  | interrupted (later : Retried)

def CL_TEMP_FAILURE_RETRY : Retried → Int
  | .settled result _ => result.rc
  | .interrupted later => CL_TEMP_FAILURE_RETRY later

/-- What the system calls of one constructor meet. -/
structure Calls extends Environment where
  ftruncate : Retried
  mmap : Option Address

/-! ### The system calls -/

/-- mmap fails when it is refused, and on a length of 0; it never maps over a mapping
of the process. -/
def mmap (kernel : Kernel) (granted : Option Address) (size : Nat) (object : OpenFile) :
    Nat × Kernel :=
  match granted with
  | none => (MAP_FAILED, kernel)
  | some address =>
      if size = 0 ∨ (kernel.mappings address).isSome then (MAP_FAILED, kernel)
      else
        (address,
          { kernel with
            mappings := Function.update kernel.mappings address (some ⟨object, size⟩)
            mapped := kernel.mapped ++ [(address.val, ⟨object, size⟩)] })

def munmap (kernel : Kernel) (address size : Nat) : Int × Kernel :=
  if address = MAP_FAILED then (-1, kernel)
  else
    match kernel.mappings address with
    | none => (-1, kernel)
    | some region =>
        if region.size = size then
          (0,
            { kernel with
              mappings := Function.update kernel.mappings address none
              unmapped := kernel.unmapped ++ [(address, region)] })
        else (-1, kernel)

def close (kernel : Kernel) (handle : Int) : Int × Kernel :=
  match kernel.space.table.find handle with
  | none => (-1, kernel)
  | some object =>
      (0,
        { kernel with
          space :=
            { kernel.space with
              table := kernel.space.table.remove handle
              tableOlder := by
                intro number other found
                rw [HandleTable.remove_find] at found
                by_cases same : number = handle
                · rw [same, Function.update_self] at found
                  contradiction
                · rw [Function.update_of_ne same] at found
                  exact kernel.space.tableOlder number other found }
          closed := kernel.closed ++ [(handle, object)] })

/-! ### The class -/

/-- The code behind the label `failure`. -/
def failure (memory : SharedMemory) (kernel : Kernel) (size : Nat) :
    Option (SharedMemory × Kernel) :=
  let unmapping := if memory.address ≠ 0 then munmap kernel memory.address size else (0, kernel)
  if unmapping.1 ≠ 0 then none
  else
    let closing :=
      if memory.handle = -1 then close unmapping.2 memory.handle else (0, unmapping.2)
    if closing.1 ≠ 0 then none
    else some
      ({ ready := false
         address := 0
         handle := -1
         size := 0 }, closing.2)

def construct (kernel : Kernel) (size : Nat) (calls : Calls) : Option (SharedMemory × Kernel) :=
  match SharedMemory_CreateBackingIfNecessary calls.toEnvironment kernel.space blank.handle with
  | none => none
  | some (handle, _, space) =>
      if handle = -1 then
        failure { blank with handle := handle } { kernel with space := space } size
      else
        let object := kernel.space.nextObject
        let opened :=
          { kernel with
            space := space
            opened := kernel.opened ++ [(handle, object)] }
        if CL_TEMP_FAILURE_RETRY calls.ftruncate = -1 then
          failure { blank with handle := handle } opened size
        else
          let (address, mapped) := mmap opened calls.mmap size object
          let memory :=
            { blank with
              handle := handle
              size := size
              address := address }
          if address = MAP_FAILED then failure memory mapped size
          else some ({ memory with ready := true }, mapped)

def cleanup (memory : SharedMemory) (kernel : Kernel) : Option (SharedMemory × Kernel) :=
  if memory.ready = false then some (memory, kernel)
  else
    let (unmap, unmapped) := munmap kernel memory.address memory.size
    if unmap ≠ 0 then none
    else
      let (rc, closed) := close unmapped memory.handle
      if rc ≠ 0 then none
      else some
        ({ ready := false
           address := 0
           handle := -1
           size := 0 }, closed)

/-! ### Objects coming and going -/

/-- An object with what its constructor was asked for and the backing it was given. -/
structure Entry where
  memory : SharedMemory
  requested : Nat
  object : OpenFile

structure World (Id : Type) where
  kernel : Kernel
  objects : Id → Option Entry
  aborted : Bool

inductive Action (Id : Type) where
  | construct (id : Id) (size : Nat) (calls : Calls)
  | cleanup (id : Id)
  | destroy (id : Id)

namespace World

variable {Id : Type} [DecidableEq Id]

def start (space : SharedSpace) : World Id :=
  { kernel :=
      { space := space
        mappings := fun _ => none
        opened := []
        closed := []
        mapped := []
        unmapped := [] }
    objects := fun _ => none
    aborted := false }

/-- The state after a call that returned, with the entry of the object replaced. -/
def finish (world : World Id) (id : Id) (kernel : Kernel) (entry : Option Entry) : World Id :=
  { world with
    kernel := kernel
    objects := Function.update world.objects id entry }

def abort (world : World Id) : World Id := { world with aborted := true }

def step (world : World Id) (action : Action Id) : Option (World Id) :=
  if world.aborted then none
  else
    match action with
    | .construct id size calls =>
        if (world.objects id).isSome then none
        else
          match construct world.kernel size calls with
          | none => some world.abort
          | some (memory, kernel) => some (world.finish id kernel (some
              { memory := memory
                requested := size
                object := world.kernel.space.nextObject }))
    | .cleanup id =>
        match world.objects id with
        | none => none
        | some entry =>
            match cleanup entry.memory world.kernel with
            | none => some world.abort
            | some (memory, kernel) => some (world.finish id kernel (some
                { entry with memory := memory }))
    | .destroy id =>
        match world.objects id with
        | none => none
        | some entry =>
            match cleanup entry.memory world.kernel with
            | none => some world.abort
            | some (_, kernel) => some (world.finish id kernel none)

end World

end SharedMemory

end CoreLib
