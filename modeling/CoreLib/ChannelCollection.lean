/-
Channels in the epoll sets of several loopers, until they are collected.

`~Channel` terminates the channel and leaves its source in the `_sources` of the loopers
where it is scheduled, with a reader that has captured the bare pointer of the channel.  An
Id names one channel object and is never used again.  The rest of the process opens
and closes descriptors of its own at any time, and `others` are those that it has open.
No descriptor has a duplicate (`dup`, `fork`, an attachment), so the open file goes with
its number.
-/

import CoreLib.ChannelRegistration

set_option autoImplicit false

namespace CoreLib.ChannelCollection

open Foundation
open ChannelRegistration (Endpoint Source socketHandle socketHandle_spec)
open ChannelRegistration.State (sourceOf)

abbrev Interest (Id : Type) := Int → Option (Source Id)

structure State (Id Loop : Type) where
  openNumbers : List Int
  others : List Int
  channels : Id → Option (Endpoint Id)
  collected : List Id
  waitSets : Loop → WaitSet (Source Id) (Interest Id)

inductive Action (Id Loop : Type) where
  | createNamed (id : Id) (name : List UInt8)
  | createConnected (id : Id)
  | tryConnect (id : Id) (accepted : Bool)
  | schedule (id : Id) (looper : Loop)
  | unschedule (id : Id) (looper : Loop)
  | terminate (id : Id)
  | collect (id : Id)
  | openOther
  | closeOther (number : Int)

variable {Id Loop : Type} [DecidableEq Id] [DecidableEq Loop]

def initial (openNumbers : List Int) : State Id Loop :=
  { openNumbers := openNumbers
    others := openNumbers
    channels := fun _ => none
    collected := []
    waitSets := fun _ => .empty fun _ => none }

def updateInWaitSetHandle (openNumbers : List Int) (source : Source Id) (shouldAdd : Bool)
    (interest : Interest Id) : Interest Id :=
  let kernel : Epoll (Source Id) :=
    { openNumbers := openNumbers
      interest := interest }
  (kernel.control shouldAdd source.readHandle source).interest

namespace State

variable (state : State Id Loop) (id : Id)

def table : Epoll (Source Id) :=
  { openNumbers := state.openNumbers
    interest := fun _ => none }

def setChannel (endpoint : Endpoint Id) : State Id Loop :=
  { state with channels := Function.update state.channels id (some endpoint) }

def setWaitSet (looper : Loop) (set : WaitSet (Source Id) (Interest Id)) : State Id Loop :=
  { state with waitSets := Function.update state.waitSets looper set }

def create (channel : Int → Channel) : State Id Loop :=
  let made := socketHandle state.table
  { state with
    openNumbers := made.2.openNumbers
    channels := Function.update state.channels id (some
      { channel := channel made.1
        source := none }) }

/-- `::close` of the only number that the open file has: every epoll set drops it. -/
def closeNumber (number : Int) : State Id Loop :=
  { state with
    openNumbers := state.openNumbers.erase number
    waitSets := fun looper =>
      { state.waitSets looper with
        kernel := Function.update (state.waitSets looper).kernel number none } }

/-- `Channel::tryConnect`; the handle -1 connects to nothing. -/
def tryConnect (accepted : Bool) (endpoint : Endpoint Id) : State Id Loop :=
  if endpoint.channel.connected then state
  else state.setChannel id
    { endpoint with channel := { endpoint.channel with
        connected := accepted && decide (endpoint.channel.handle ≠ -1) } }

def schedule (looper : Loop) (endpoint : Endpoint Id) : State Id Loop :=
  if endpoint.channel.connected then
    let source := sourceOf id endpoint
    let cached := state.setChannel id { endpoint with source := some source }
    cached.setWaitSet looper
      ((cached.waitSets looper).addSource (updateInWaitSetHandle cached.openNumbers) source).2
  else state

/-- `Channel::unscheduleFromLooper`; a null `_source` is never in the set. -/
def unschedule (looper : Loop) (endpoint : Endpoint Id) : State Id Loop :=
  match endpoint.source with
  | none => state
  | some source => state.setWaitSet looper
      ((state.waitSets looper).removeSource (updateInWaitSetHandle state.openNumbers) source).2

def terminate (endpoint : Endpoint Id) : State Id Loop :=
  let closed :=
    if endpoint.channel.handle = -1 then state else state.closeNumber endpoint.channel.handle
  closed.setChannel id { endpoint with channel := endpoint.channel.terminated }

/-- `Channel::~Channel`. -/
def collect (endpoint : Endpoint Id) : State Id Loop :=
  let terminated := state.terminate id endpoint
  { terminated with
    channels := Function.update terminated.channels id none
    collected := id :: terminated.collected }

def unused : Bool := (state.channels id).isNone && decide (id ∉ state.collected)

def openOther : State Id Loop :=
  { state with
    openNumbers := state.table.allocate.2.openNumbers
    others := state.table.allocate.1 :: state.others }

def closeOther (number : Int) : Option (State Id Loop) :=
  if number ∈ state.others then
    some { state.closeNumber number with
      others := state.others.filter fun other => decide (other ≠ number) }
  else none

end State

def step (state : State Id Loop) : Action Id Loop → Option (State Id Loop)
  | .createNamed id name =>
      if state.unused id then some (state.create id (Channel.named name)) else none
  | .createConnected id =>
      if state.unused id then some (state.create id Channel.adopted) else none
  | .tryConnect id accepted => (state.channels id).map (state.tryConnect id accepted)
  | .schedule id looper => (state.channels id).map (state.schedule id looper)
  | .unschedule id looper => (state.channels id).map (state.unschedule looper)
  | .terminate id => (state.channels id).map (state.terminate id)
  | .collect id => (state.channels id).map (state.collect id)
  | .openOther => some state.openOther
  | .closeOther number => state.closeOther number

/-- The source whose pointer `epoll_wait` returns when the number is ready. -/
def wait (state : State Id Loop) (looper : Loop) (number : Int) : Option (Source Id) :=
  (state.waitSets looper).kernel number

end CoreLib.ChannelCollection
