/-
The loopers of threads.

`Looper::Current` keeps the looper of each thread in thread-local storage, and the destructor
of the key deletes it when the thread exits.  A looper has a wait set from the beginning and
gets its trivial source at the first `loop`.  Both are private: what the user has are the
names of other objects.  Every call is one step, but for the first `loop`, which other
threads can see between its making of the trivial source and its `addSource`.
-/

import CoreLib.SourceLifetime

set_option autoImplicit false

namespace CoreLib.LooperThreads

open Foundation
open SourceLifetime (Process)

/-- The wait set and the trivial source of a looper have the name of its thread. -/
inductive Name (Thread Id : Type) where
  | looper (thread : Thread)
  | user (id : Id)
deriving DecidableEq, Repr

/-- How far the first `loop` has come with `_trivialSource`. -/
inductive TrivialSource where
  | absent
  | made
  | added
deriving DecidableEq, Repr

structure Looper where
  trivialSource : TrivialSource
deriving DecidableEq, Repr

structure State (Thread Id : Type) where
  process : Process (Name Thread Id)
  loopers : Thread → Option Looper

inductive Action (Thread Id : Type) where
  | user (call : SourceLifetime.Action Id)
  | Current (thread : Thread)
  | addSource (thread : Thread) (id : Id)
  | removeSource (thread : Thread) (id : Id)
  | loop (thread : Thread)
  | addTrivialSource (thread : Thread)
  | terminate (thread : Thread)
  /-- `addSource(_trivialSource)` and a `terminate` of another thread that is in
  `LooperSource::handles` at the same time. -/
  | terminateWhileAdding (thread : Thread)
  | exit (thread : Thread)

abbrev Call (Thread Id : Type) := SourceLifetime.Action (Name Thread Id)

variable {Thread Id : Type} [DecidableEq Thread] [DecidableEq Id]

def start (table : HandleTable SourceLifetime.File) : State Thread Id :=
  { process := .start table
    loopers := fun _ => none }

def ofUser : SourceLifetime.Action Id → Call Thread Id
  | .make id maker => .make (.user id) maker
  | .copy id => .copy (.user id)
  | .drop id => .drop (.user id)
  | .handles id => .handles (.user id)
  | .createWaitSet id => .createWaitSet (.user id)
  | .addSource waitSet id => .addSource (.user waitSet) (.user id)
  | .removeSource waitSet id => .removeSource (.user waitSet) (.user id)
  | .destroyWaitSet waitSet => .destroyWaitSet (.user waitSet)

namespace Looper

/-- The beginning of `Looper::loop`; a thread that is there does not enter it again. -/
def loop (thread : Thread) (looper : Looper) : Option (List (Call Thread Id)) :=
  match looper.trivialSource with
  | .absent => some [.make (.looper thread) .AsTrivial]
  | .made => none
  | .added => some []

def addTrivialSource (thread : Thread) (looper : Looper) : Option (List (Call Thread Id)) :=
  if looper.trivialSource = .made then some [.addSource (.looper thread) (.looper thread)]
  else none

/-- `_trivialSource->writeHandle()`; a null `_trivialSource` is not dereferenced here. -/
def terminate (thread : Thread) (looper : Looper) : Option (List (Call Thread Id)) :=
  if looper.trivialSource = .absent then none else some [.handles (.looper thread)]

/-- The members are destroyed in reverse: `_trivialSource` and then `_waitSet`.  A thread
that is in `loop` does not exit. -/
def destroy (thread : Thread) (looper : Looper) : Option (List (Call Thread Id)) :=
  match looper.trivialSource with
  | .absent => some [.destroyWaitSet (.looper thread)]
  | .made => none
  | .added => some [.drop (.looper thread), .destroyWaitSet (.looper thread)]

def entered (looper : Looper) : Looper :=
  if looper.trivialSource = .absent then { trivialSource := .made } else looper

end Looper

namespace State

variable (state : State Thread Id)

def calls : Action Thread Id → Option (List (Call Thread Id))
  | .user call => some [ofUser call]
  | .Current thread =>
      match state.loopers thread with
      | some _ => some []
      | none => some [.createWaitSet (.looper thread)]
  | .addSource thread id =>
      (state.loopers thread).map fun _ => [.addSource (.looper thread) (.user id)]
  | .removeSource thread id =>
      (state.loopers thread).map fun _ => [.removeSource (.looper thread) (.user id)]
  | .loop thread => (state.loopers thread).bind (Looper.loop thread)
  | .addTrivialSource thread => (state.loopers thread).bind (Looper.addTrivialSource thread)
  | .terminate thread => (state.loopers thread).bind (Looper.terminate thread)
  | .terminateWhileAdding thread => (state.loopers thread).bind (Looper.addTrivialSource thread)
  | .exit thread =>
      match state.loopers thread with
      | some looper => looper.destroy thread
      | none => some []

def loopersAfter : Action Thread Id → Thread → Option Looper
  | .Current thread => Function.update state.loopers thread
      (some ((state.loopers thread).getD { trivialSource := .absent }))
  | .loop thread =>
      Function.update state.loopers thread ((state.loopers thread).map Looper.entered)
  | .addTrivialSource thread =>
      Function.update state.loopers thread (some { trivialSource := .added })
  | .terminateWhileAdding thread =>
      Function.update state.loopers thread (some { trivialSource := .added })
  | .exit thread => Function.update state.loopers thread none
  | .user _ => state.loopers
  | .addSource _ _ => state.loopers
  | .removeSource _ _ => state.loopers
  | .terminate _ => state.loopers

end State

/-- `LooperSource::handles` of the second thread, which has seen `_handlesAllocated` unset:
the allocator runs again, and its handles replace those that are in the wait set. -/
def allocateAgain (thread : Thread) (process : Process (Name Thread Id)) :
    Process (Name Thread Id) :=
  match process.sources (.looper thread) with
  | none => process
  | some source =>
      let (numbers, after) := Process.openFiles source.files process
      after.setSource (.looper thread) { source with handles := source.returned numbers }

def step (state : State Thread Id) (action : Action Thread Id) : Option (State Thread Id) :=
  (state.calls action).bind fun calls =>
    (run Process.step state.process calls).map fun process =>
      { process :=
          match action with
          | .terminateWhileAdding thread => allocateAgain thread process
          | _ => process
        loopers := state.loopersAfter action }

/-- The step has called `pipe`, `timerfd_create` or `epoll_create`. -/
def opens (before after : State Thread Id) : Bool :=
  Process.opens before.process after.process

end CoreLib.LooperThreads
