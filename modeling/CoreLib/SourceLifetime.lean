/-
The lifetimes of sources and wait sets.

A LooperSource allocates its handles when they are first asked for and gives them back in
its destructor.  It lives as long as a shared_ptr to it exists, and these are held by the
user and by the `_sources` of wait sets.  The kernel gets the bare pointer.  The rest of
the process opens and closes nothing meanwhile.
-/

import CoreLib.Epoll
import CoreLib.Foundation.Custody
import CoreLib.Foundation.HandleTable
import CoreLib.Foundation.Refusal

set_option autoImplicit false

namespace CoreLib.SourceLifetime

open Foundation

inductive Maker where
  /-- `AsTrivial`: the two ends of a pipe. -/
  | AsTrivial
  /-- `AsTimer` on Linux: a timerfd and no write handle. -/
  | AsTimer
  /-- `Channel::source` and `Server::clientConnectionsSource`: handles of others, which no
  deallocator closes. -/
  | lent (handles : Int × Int)
  /-- A null allocator. -/
  | nothing
deriving DecidableEq, Repr

/-- What a descriptor refers to, with the serial of the object that opened it. -/
inductive File where
  | foreign (number : Nat)
  | pipe (serial : Nat) (writable : Bool)
  | timer (serial : Nat)
  | epoll (serial : Nat)
deriving DecidableEq, Repr

/-- Who has a shared_ptr to a source. -/
inductive Holder (Id : Type) where
  | user
  | waitSet (id : Id)
deriving DecidableEq, Repr

structure Source (Id : Type) where
  serial : Nat
  maker : Maker
  handles : Int × Int
  handlesAllocated : Bool
  references : List (Holder Id)

structure WaitSet (Id : Type) where
  serial : Nat
  handle : Int
  sources : List Id
  interest : Int → Option Id

structure Process (Id : Type) where
  table : HandleTable File
  nextSerial : Nat
  sources : Id → Option (Source Id)
  waitSets : Id → Option (WaitSet Id)
  opened : List (Int × File)
  closed : List (Int × File)
  failed : Bool

inductive Action (Id : Type) where
  | make (id : Id) (maker : Maker)
  | copy (id : Id)
  | drop (id : Id)
  | handles (id : Id)
  | createWaitSet (id : Id)
  | addSource (waitSet id : Id)
  | removeSource (waitSet id : Id)
  | destroyWaitSet (waitSet : Id)

variable {Id : Type} [DecidableEq Id]

def WaitSet.forget (set : WaitSet Id) (number : Int) : WaitSet Id :=
  { set with interest := Function.update set.interest number none }

omit [DecidableEq Id] in
@[simp] theorem WaitSet.forget_interest (set : WaitSet Id) (number : Int) :
    (set.forget number).interest = Function.update set.interest number none := rfl

namespace Source

def fresh (serial : Nat) (maker : Maker) : Source Id :=
  { serial := serial
    maker := maker
    handles := (-1, -1)
    handlesAllocated := false
    references := [.user] }

def files (source : Source Id) : List File :=
  match source.maker with
  | .AsTrivial => [.pipe source.serial false, .pipe source.serial true]
  | .AsTimer => [.timer source.serial]
  | .lent _ => []
  | .nothing => []

def returned (source : Source Id) (numbers : List Int) : Int × Int :=
  match source.maker with
  | .AsTrivial => (numbers.getD 0 (-1), numbers.getD 1 (-1))
  | .AsTimer => (numbers.getD 0 (-1), -1)
  | .lent handles => handles
  | .nothing => source.handles

end Source

namespace Process

/-- The descriptors that are open before, and that belong to others. -/
def inherited (opened : List Nat) : HandleTable File :=
  .ofNumbers opened fun number => .foreign number.toNat

def start (table : HandleTable File) : Process Id :=
  { table := table
    nextSerial := 0
    sources := fun _ => none
    waitSets := fun _ => none
    opened := []
    closed := []
    failed := false }

variable (process : Process Id)

def setSource (id : Id) (source : Source Id) : Process Id :=
  { process with sources := Function.update process.sources id (some source) }

def setWaitSet (id : Id) (set : WaitSet Id) : Process Id :=
  { process with waitSets := Function.update process.waitSets id (some set) }

@[simp] theorem setSource_sources (id : Id) (source : Source Id) :
    (process.setSource id source).sources = Function.update process.sources id (some source) := rfl

@[simp] theorem setSource_waitSets (id : Id) (source : Source Id) :
    (process.setSource id source).waitSets = process.waitSets := rfl

@[simp] theorem setWaitSet_sources (id : Id) (set : WaitSet Id) :
    (process.setWaitSet id set).sources = process.sources := rfl

@[simp] theorem setWaitSet_waitSets (id : Id) (set : WaitSet Id) :
    (process.setWaitSet id set).waitSets = Function.update process.waitSets id (some set) := rfl

/-! ### Descriptors -/

def openFile (file : File) : Process Id :=
  { process with
    table := process.table.insert file
    opened := process.opened ++ [(process.table.next, file)] }

def openFiles : List File → Process Id → List Int × Process Id
  | [], process => ([], process)
  | file :: files, process =>
      let (numbers, after) := openFiles files (process.openFile file)
      (process.table.next :: numbers, after)

def fail : Process Id := { process with failed := true }

/-- `CL_CHECK(::close(number))`; the last reference to a file takes its registrations
along. -/
def closeHandle (number : Int) : Process Id :=
  match process.table.find number with
  | none => process.fail
  | some file =>
      { process with
        table := process.table.remove number
        closed := process.closed ++ [(number, file)]
        waitSets := fun id => (process.waitSets id).map fun set => set.forget number }

/-! ### Sources -/

def handles (id : Id) : Process Id :=
  match process.sources id with
  | none => process
  | some source =>
      if source.handlesAllocated then process
      else
        let (numbers, after) := openFiles source.files process
        after.setSource id
          { source with
            handles := source.returned numbers
            handlesAllocated := true }

def deallocate (source : Source Id) : Process Id :=
  match source.maker with
  | .AsTrivial => (process.closeHandle source.handles.1).closeHandle source.handles.2
  | .AsTimer =>
      if source.handles.2 ≠ -1 then process.fail else process.closeHandle source.handles.1
  | .lent _ => process
  | .nothing => process

/-- `LooperSource::~LooperSource`. -/
def destroySource (id : Id) (source : Source Id) : Process Id :=
  let process := { process with sources := Function.update process.sources id none }
  if source.handlesAllocated then process.deallocate source else process

/-- One shared_ptr goes, and the source with the last one. -/
def dropReference (id : Id) (holder : Holder Id) : Process Id :=
  match process.sources id with
  | none => process
  | some source =>
      let left := source.references.erase holder
      if left = [] then process.destroySource id source
      else process.setSource id { source with references := left }

def addReference (id : Id) (holder : Holder Id) : Process Id :=
  match process.sources id with
  | none => process
  | some source =>
      process.setSource id { source with references := holder :: source.references }

def userHolds (id : Id) : Bool :=
  match process.sources id with
  | none => false
  | some source => source.references.contains .user

/-! ### Wait sets -/

def updateInWaitSetHandle (waitSet id : Id) (shouldAdd : Bool) : Process Id :=
  let process := process.handles id
  match process.sources id, process.waitSets waitSet with
  | some source, some set =>
      let kernel : Epoll Id :=
        { openNumbers := process.table.numbers
          interest := set.interest }
      process.setWaitSet waitSet
        { set with interest := (kernel.control shouldAdd source.handles.1 id).interest }
  | _, _ => process

/-- `WaitSet::WaitSet`. -/
def createWaitSet (id : Id) : Process Id :=
  let after := process.openFile (.epoll process.nextSerial)
  { after.setWaitSet id
      { serial := process.nextSerial
        handle := process.table.next
        sources := []
        interest := fun _ => none } with
    nextSerial := process.nextSerial + 1 }

def addSource (waitSet id : Id) : Option (Process Id) :=
  match process.waitSets waitSet with
  | none => none
  | some set =>
      if set.sources.contains id then some process
      else
        let inserted := (process.addReference id (.waitSet waitSet)).setWaitSet waitSet
          { set with sources := id :: set.sources }
        some (inserted.updateInWaitSetHandle waitSet id true)

def removeSource (waitSet id : Id) : Option (Process Id) :=
  match process.waitSets waitSet with
  | none => none
  | some set =>
      if set.sources.contains id then
        let erased := (process.setWaitSet waitSet
          { set with sources := set.sources.erase id }).dropReference id (.waitSet waitSet)
        some (erased.updateInWaitSetHandle waitSet id false)
      else some process

/-- `WaitSet::~WaitSet`; the members of the object go after its body. -/
def destroyWaitSet (waitSet : Id) : Option (Process Id) :=
  match process.waitSets waitSet with
  | none => none
  | some set =>
      let unregistered := set.sources.foldl
        (fun process id => process.updateInWaitSetHandle waitSet id false) process
      let closed := unregistered.closeHandle set.handle
      some (set.sources.foldl (fun process id => process.dropReference id (.waitSet waitSet))
        { closed with waitSets := Function.update closed.waitSets waitSet none })

/-- The source whose pointer `wait` returns when this number is ready. -/
def wait (waitSet : Id) (number : Int) : Option Id :=
  (process.waitSets waitSet).bind fun set => set.interest number

def make (id : Id) (maker : Maker) : Process Id :=
  { process.setSource id (.fresh process.nextSerial maker) with
    nextSerial := process.nextSerial + 1 }

/-- One step of the user, who passes shared_ptrs and calls through them. -/
def step (process : Process Id) (action : Action Id) : Option (Process Id) :=
  if process.failed then none
  else
    match action with
    | .make id maker => if (process.sources id).isSome then none else some (process.make id maker)
    | .copy id => if process.userHolds id then some (process.addReference id .user) else none
    | .drop id => if process.userHolds id then some (process.dropReference id .user) else none
    | .handles id => if process.userHolds id then some (process.handles id) else none
    | .createWaitSet id =>
        if (process.waitSets id).isSome then none else some (process.createWaitSet id)
    | .addSource waitSet id =>
        if process.userHolds id then process.addSource waitSet id else none
    | .removeSource waitSet id =>
        if process.userHolds id then process.removeSource waitSet id else none
    | .destroyWaitSet waitSet => process.destroyWaitSet waitSet

/-- The step calls `pipe`, `timerfd_create` or `epoll_create`.  Where the kernel refuses, a
CL_CHECK or CL_ASSERT ends the process. -/
def opens (before after : Process Id) : Bool :=
  before.opened.length != after.opened.length

end Process

end CoreLib.SourceLifetime
