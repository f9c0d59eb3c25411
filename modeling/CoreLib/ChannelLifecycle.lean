/-
The life of one channel on its owner's thread.

A state holds the channel and the stack of member functions that are running, the
innermost first.  System calls answer with arbitrary results while the handle is
open.  The two callbacks are user code: while one of them is on top of the stack, it
may call any operation except the destructor, so calls nest to any depth.  The events
are the history of what the operations returned, of successful calls of close, and of
runs of the termination callback.
-/

import CoreLib.Channel
import CoreLib.Foundation.Runs

set_option autoImplicit false

namespace CoreLib.ChannelLifecycle

open Foundation Socket

inductive Frame where
  | connect
  | write (message : Message) (point : WritePoint)
  | sendFails
  | read (point : ReadPoint)
  | dispatch (status : Status) (messages : List Message)
  | messageCallback
  | terminate
  | terminated (closed : Bool)
  | terminationCallback
  | destructor

inductive Event where
  | connectReturned (result : Bool)
  | sendReturned (result : Bool)
  | closed (installed : Bool)
  | terminationCallback
deriving DecidableEq

structure State where
  channel : Channel
  stack : List Frame
  events : List Event
  aborted : Bool
  destroyed : Bool

inductive Action where
  | tryConnect
  | sendMessage (message : Message)
  | readMessageOnHandle
  | terminate
  | destroy
  | setMessageReceivedCallback (installed : Bool)
  | setTerminationCallback (installed : Bool)
  | callbackReturns
  | connect (result : SysResult)
  | sendmsg (result : SysResult)
  | poll (result : SysResult)
  | recvmsg (received : Received)
  | close (succeeds : Bool)
  | proceed

def initial (channel : Channel) : State :=
  { channel := channel
    stack := []
    events := []
    aborted := false
    destroyed := false }

/-- Code outside the channel runs when no member function does, and in callbacks. -/
def userCode : List Frame → Bool
  | [] => true
  | .messageCallback :: _ => true
  | .terminationCallback :: _ => true
  | _ => false

/-- Calls on the handle -1 fail with EBADF. -/
def Answers (channel : Channel) (result : SysResult) : Prop :=
  channel.handle = -1 → result = .failure .EBADF

instance (channel : Channel) (result : SysResult) : Decidable (Answers channel result) :=
  inferInstanceAs (Decidable (_ → _))

namespace State

variable (state : State)

def abort : State := { state with aborted := true }

def push (frame : Frame) : State := { state with stack := frame :: state.stack }

def restack (stack : List Frame) : State := { state with stack := stack }

def record (event : Event) : State := { state with events := state.events ++ [event] }

def call : Action → Option State
  | .tryConnect =>
      if state.channel.connected then some (state.record (.connectReturned true))
      else some (state.push .connect)
  | .sendMessage message =>
      if message.size ≤ Channel.maxMessageSize then
        some (state.push (.write message (WriteMessage.enter message)))
      else some state.abort
  | .readMessageOnHandle => some (state.push (.read ReadMessages.enter))
  | .terminate => some (state.push .terminate)
  | .destroy =>
      match state.stack with
      | [] => some (state.restack [.terminate, .destructor])
      | _ => none
  | .setMessageReceivedCallback installed => some
      { state with channel := { state.channel with messageReceivedCallback := installed } }
  | .setTerminationCallback installed => some
      { state with channel := { state.channel with terminationCallback := installed } }
  | .callbackReturns =>
      match state.stack with
      | _ :: rest => some (state.restack rest)
      | [] => none
  | _ => none

/-- `Socket::connect` asserts the length of the name. -/
def connect (result : SysResult) (rest : List Frame) : State :=
  if 96 < state.channel.name.length then state.abort
  else
    State.record
      { state with
        channel := { state.channel with connected := decide (result.rc = 0) }
        stack := rest }
      (.connectReturned (decide (result.rc = 0)))

/-- `::close` in `Socket::close`, whose failure is fatal. -/
def closeHandle (succeeds : Bool) (stack : List Frame) : State :=
  if succeeds then
    State.record
      { state with
        channel := { state.channel with handle := -1 }
        stack := stack }
      (.closed state.channel.terminationCallback)
  else state.abort

/-- The end of `terminate`, after the handle has been closed or found closed. -/
def settle (closed : Bool) (rest : List Frame) : State :=
  let cleared : State :=
    { state with channel := { state.channel with
        connected := false
        ready := false } }
  if closed && state.channel.terminationCallback then
    (cleared.restack (.terminationCallback :: rest)).record .terminationCallback
  else cleared.restack rest

def proceed : Option State :=
  match state.stack with
  | .write _ (.returned status) :: rest =>
      if status = .permanentFailure then some (state.restack (.terminate :: .sendFails :: rest))
      else some ((state.restack rest).record (.sendReturned (decide (status = .success))))
  | .write _ .aborted :: _ => some state.abort
  | .sendFails :: rest => some ((state.restack rest).record (.sendReturned false))
  | .read (.returned status messages) :: rest => some (state.restack
      (.dispatch status (if state.channel.messageReceivedCallback then messages else []) :: rest))
  | .read .aborted :: _ => some state.abort
  | .dispatch status (_ :: messages) :: rest =>
      if state.channel.messageReceivedCallback then
        some (state.restack (.messageCallback :: .dispatch status messages :: rest))
      else some state.abort
  | .dispatch status [] :: rest =>
      if status = .permanentFailure then some (state.restack (.terminate :: rest))
      else some (state.restack rest)
  | .terminate :: rest =>
      if state.channel.handle = -1 then some (state.restack (.terminated false :: rest)) else none
  | .terminated closed :: rest => some (state.settle closed rest)
  | .destructor :: rest =>
      if state.channel.handle = -1 then some { state.restack rest with destroyed := true }
      else none
  | _ => none

def answer (action : Action) : Option State :=
  match action, state.stack with
  | .connect result, .connect :: rest =>
      if Answers state.channel result then some (state.connect result rest) else none
  | .sendmsg result, .write message .sendmsg :: rest =>
      if Answers state.channel result then
        some (state.restack (.write message (WriteMessage.afterSendmsg message result) :: rest))
      else none
  | .poll result, .write message .poll :: rest =>
      if Answers state.channel result then
        some (state.restack (.write message (WriteMessage.afterPoll result) :: rest))
      else none
  | .recvmsg received, .read (.recvmsg messages) :: rest =>
      if Answers state.channel received.result then
        some (state.restack (.read (ReadMessages.afterRecvmsg messages received) :: rest))
      else none
  | .close succeeds, .terminate :: rest =>
      if state.channel.handle = -1 then none
      else some (state.closeHandle succeeds (.terminated true :: rest))
  | .close succeeds, .destructor :: rest =>
      if state.channel.handle = -1 then none
      else some (state.closeHandle succeeds (.destructor :: rest))
  | _, _ => none

end State

def step (state : State) (action : Action) : Option State :=
  if state.aborted || state.destroyed then none
  else
    match action with
    | .proceed => state.proceed
    | .connect _ => state.answer action
    | .sendmsg _ => state.answer action
    | .poll _ => state.answer action
    | .recvmsg _ => state.answer action
    | .close _ => state.answer action
    | _ => if userCode state.stack then state.call action else none

/-- The three constructors, with a handle that `Socket::Socket` has asserted positive. -/
inductive Created : Channel → Prop where
  | named (name : List UInt8) (handle : Int) (positive : 0 < handle) :
      Created (Channel.named name handle)
  | adopted (handle : Int) (positive : 0 < handle) : Created (Channel.adopted handle)

end CoreLib.ChannelLifecycle
