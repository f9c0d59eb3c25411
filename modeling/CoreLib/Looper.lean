/-
The looper of Looper.cpp, with its trivial source and the threads that terminate it.

The owner's thread moves through the points of `loop()`.  `terminate` has two steps,
the store to `_shouldTerminate` and the write of one wake token to the pipe of the
trivial source; any number of threads, and callbacks of the running loop, can stand
between the two.  The kernel's choice of a ready source is part of the action.
Counters that no source line keeps are history.
-/

import CoreLib.WaitSet
import CoreLib.Foundation.Runs

set_option autoImplicit false

namespace CoreLib.Looper

open Foundation

/-- A member of the wait set: the trivial source or one added by the user. -/
inductive Registered (Source : Type) where
  | trivialSource
  | user (source : Source)
deriving DecidableEq

inductive Point (Source : Type) where
  | outside
  | create
  | test
  | wait
  | reader (source : Registered Source)
  | awoken (source : Registered Source)
  | reset
deriving DecidableEq

inductive Caller (Thread : Type) where
  | thread (thread : Thread)
  | callback
deriving DecidableEq

structure State (Thread Source : Type) where
  constructed : Bool
  trivialSource : Bool
  shouldTerminate : Bool
  waitSet : WaitSet (Registered Source) Unit
  pipe : Nat
  point : Point Source
  terminating : List (Caller Thread)
  crashed : Bool
  dispatches : Nat
  returned : List Nat
  flagged : Nat
  written : Nat
  consumed : Nat
  early : Bool

inductive Action (Thread Source : Type) where
  | current
  | addSource (source : Source)
  | removeSource (source : Source)
  | loop
  | create
  | test
  | wait (source : Option (Registered Source))
  | read
  | awaken
  | reset
  | setFlag (caller : Caller Thread)
  | wake (caller : Caller Thread)

/-- The registration of sources is not modelled here. -/
def update {Source : Type} : Registered Source → Bool → Unit → Unit := fun _ _ _ => ()

/-- A callback runs inside the reader or the wake function of a user's source. -/
def Point.callback {Source : Type} : Point Source → Bool
  | .reader (.user _) => true
  | .awoken (.user _) => true
  | _ => false

variable {Thread Source : Type} [DecidableEq Thread] [DecidableEq Source]

def initial : State Thread Source :=
  { constructed := false
    trivialSource := false
    shouldTerminate := false
    waitSet := .empty ()
    pipe := 0
    point := .outside
    terminating := []
    crashed := false
    dispatches := 0
    returned := []
    flagged := 0
    written := 0
    consumed := 0
    early := false }

namespace State

variable (state : State Thread Source)

def addSource (source : Registered Source) : State Thread Source :=
  { state with waitSet := (state.waitSet.addSource update source).2 }

def removeSource (source : Registered Source) : State Thread Source :=
  { state with waitSet := (state.waitSet.removeSource update source).2 }

/-- Code of the owner outside `loop()`, or code of a callback. -/
def userCode : Bool := state.point = .outside || state.point.callback

/-- A callback has to finish its call of `terminate` before the loop goes on. -/
def callbackDone : Bool := !(Caller.callback ∈ state.terminating)

/-- The head of `loop()`. -/
def create : State Thread Source :=
  if state.trivialSource then { state with point := .test }
  else { state.addSource .trivialSource with
    trivialSource := true
    point := .test }

def test : State Thread Source :=
  { state with point := if state.shouldTerminate then .reset else .wait }

/-- The trivial source is ready when its pipe holds a token; a user's source may be
ready at any time.  A null source starts the next round. -/
def wait : Option (Registered Source) → Option (State Thread Source)
  | none => some { state with point := .test }
  | some source =>
      if source ∈ state.waitSet.sources ∧ (source = .trivialSource → 0 < state.pipe) then
        some { state with
          point := .reader source
          dispatches := state.dispatches + 1 }
      else none

def read : Option (State Thread Source) :=
  match state.point with
  | .reader .trivialSource =>
      if 0 < state.pipe then
        some { state with
          point := .awoken .trivialSource
          pipe := state.pipe - 1
          consumed := state.consumed + 1 }
      else none
  | .reader (.user source) =>
      if state.callbackDone then some { state with point := .awoken (.user source) } else none
  | _ => none

def awaken : Option (State Thread Source) :=
  match state.point with
  | .awoken _ => if state.callbackDone then some { state with point := .test } else none
  | _ => none

/-- `_shouldTerminate = false` and the return of `loop()`. -/
def reset : State Thread Source :=
  { state with
    shouldTerminate := false
    point := .outside
    returned := state.returned ++ [state.dispatches] }

/-- The first step of `terminate`. -/
def setFlag (caller : Caller Thread) : State Thread Source :=
  { state with
    shouldTerminate := true
    terminating := caller :: state.terminating
    flagged := state.flagged + 1
    early := state.early || (state.returned.isEmpty && state.point = .outside) }

/-- The second step of `terminate`, which uses `_trivialSource`. -/
def wake (caller : Caller Thread) : State Thread Source :=
  if state.trivialSource then
    { state with
      terminating := state.terminating.erase caller
      pipe := state.pipe + 1
      written := state.written + 1 }
  else { state with crashed := true }

end State

def step (state : State Thread Source) (action : Action Thread Source) :
    Option (State Thread Source) :=
  if state.crashed then none
  else
    match action with
    | .current => some { state with constructed := true }
    | .addSource source =>
        if state.constructed ∧ state.userCode then some (state.addSource (.user source))
        else none
    | .removeSource source =>
        if state.constructed ∧ state.userCode then some (state.removeSource (.user source))
        else none
    | .loop =>
        if state.constructed ∧ state.point = .outside then
          some { state with
            point := .create
            dispatches := 0 }
        else none
    | .create => if state.point = .create then some state.create else none
    | .test => if state.point = .test then some state.test else none
    | .wait source => if state.point = .wait then state.wait source else none
    | .read => state.read
    | .awaken => state.awaken
    | .reset => if state.point = .reset then some state.reset else none
    | .setFlag caller =>
        if state.constructed ∧ caller ∉ state.terminating ∧
            (caller = .callback → state.point.callback) then
          some (state.setFlag caller)
        else none
    | .wake caller => if caller ∈ state.terminating then some (state.wake caller) else none

end CoreLib.Looper
