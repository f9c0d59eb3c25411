/-
One direction of a connected channel: A sends, B reads.

The kernel between the two ends is a first-in first-out queue of whole packets.
A state holds both channels, the point that each member function call has reached,
the queue, and the history of sendMessage results and of messages handed to B's
callback.  Each action is one system call or one return, so a list of actions is
an interleaving of A's sender, B's reader and a thread that may terminate A at any
moment.  The outcome of a system call is part of its action, and so are the bytes that
sendmsg finds where the control data of a message have been.
-/

import CoreLib.Channel
import CoreLib.Foundation.Ledger

set_option autoImplicit false

namespace CoreLib.Delivery

open Foundation Socket

/-- Where B stands in `readMessageOnHandle`. -/
inductive Reading where
  | idle
  | receiving (messages : List Message)
  | dispatching (status : Status) (messages : List Message)
  | aborted

namespace Reading

def collected : Reading → List Message
  | .receiving messages => messages
  | .dispatching _ messages => messages
  | .idle => []
  | .aborted => []

/-- Without a callback the batch is dropped when `ReadMessages` returns. -/
def ofPoint (callback : Bool) : ReadPoint → Reading
  | .recvmsg messages => .receiving messages
  | .returned status messages => .dispatching status (if callback then messages else [])
  | .aborted => .aborted

end Reading

structure State where
  /-- What the platform of B makes of a null control header. -/
  nullHeader : Control.NullHeader
  sender : Channel
  receiver : Channel
  senderTable : DescriptorTable
  receiverTable : DescriptorTable
  sending : Option (Message × WritePoint)
  reading : Reading
  queue : List Packet
  returned : List (Message × Bool)
  dispatched : List Message

inductive Action where
  | send (message : Message)
  | sendmsgFails (errno : Errno)
  | sendmsgAccepts (control : List UInt8)
  | poll (interrupted : Bool)
  | sendReturns
  | terminateSender
  | read
  | recvmsgFails (errno : Errno)
  | recvmsg (descriptors : List Descriptor)
  | dispatch
  | readReturns

/-- The receiving kernel gives one unused number to each file of a packet. -/
def Installable (table : DescriptorTable) (packet : Packet) (descriptors : List Descriptor) :
    Prop :=
  descriptors.length = packet.files.length ∧ descriptors.Nodup ∧
    ∀ descriptor ∈ descriptors, table (descriptor.val : Int) = none

instance (table : DescriptorTable) (packet : Packet) (descriptors : List Descriptor) :
    Decidable (Installable table packet descriptors) :=
  have : Decidable (∀ descriptor ∈ descriptors, table (descriptor.val : Int) = none) :=
    List.decidableBAll _ descriptors
  inferInstanceAs (Decidable (_ ∧ _ ∧ _))

def install (table : DescriptorTable) : List Descriptor → List OpenFile → DescriptorTable
  | descriptor :: descriptors, file :: files => fun number =>
      if number = (descriptor.val : Int) then some file
      else install table descriptors files number
  | _, _ => table

namespace State

def resume (state : State) (point : ReadPoint) : Reading :=
  .ofPoint state.receiver.messageReceivedCallback point

def write (state : State) (message : Message) (point : WritePoint) : State :=
  { state with sending := some (message, point) }

def sendmsgFails (state : State) (errno : Errno) : Option State :=
  match state.sending with
  | some (message, .sendmsg) =>
      if state.sender.handle = -1 ∧ errno ≠ .EBADF then none
      else some (state.write message (WriteMessage.afterSendmsg message (.failure errno)))
  | _ => none

/-- A sendmsg that the kernel takes.  `msg_controllen` is what the writer has set, and 0 for a
message without attachments. -/
def sendmsgAccepts (state : State) (control : List UInt8) : Option State :=
  match state.sending with
  | some (message, .sendmsg) =>
      if state.sender.handle = -1 then none
      else if control.length ≠ (WriteMessage.control message).length then none
      else
        match Packet.ofControl state.senderTable message control with
        | none => none
        | some packet => some
            { state.write message (WriteMessage.afterSendmsg message
                { rc := message.size, errno := .other 0 }) with
              queue := state.queue ++ [packet] }
  | _ => none

def poll (state : State) (interrupted : Bool) : Option State :=
  match state.sending with
  | some (message, .poll) => some (state.write message (WriteMessage.afterPoll
      (if interrupted then .failure .EINTR else { rc := 1, errno := .other 0 })))
  | _ => none

/-- The end of `sendMessage`: a permanent failure terminates the channel. -/
def sendReturns (state : State) : Option State :=
  match state.sending with
  | some (message, .returned status) => some
      { state with
        sender := if status = .permanentFailure then state.sender.terminated else state.sender
        sending := none
        returned := state.returned ++ [(message, decide (status = .success))] }
  | _ => none

def recvmsgFails (state : State) (errno : Errno) : Option State :=
  match state.reading with
  | .receiving messages =>
      if state.receiver.handle = -1 ∧ errno ≠ .EBADF then none
      else some { state with
        reading := state.resume
          (ReadMessages.afterRecvmsg messages (.nothing (.failure errno))) }
  | _ => none

/-- A recvmsg that the kernel does not fail: it pops the oldest packet, reports
the shutdown of the peer, or finds nothing. -/
def recvmsg (state : State) (descriptors : List Descriptor) : Option State :=
  match state.reading with
  | .receiving messages =>
      if state.receiver.handle = -1 then none
      else
        match state.queue with
        | [] => some { state with
            reading := state.resume (ReadMessages.afterRecvmsg messages (.nothing
              (if state.sender.handle = -1 then { rc := 0, errno := .other 0 }
              else .failure .EAGAIN))) }
        | packet :: rest =>
            if Installable state.receiverTable packet descriptors then
              some { state with
                reading := state.resume
                  (ReadMessages.afterRecvmsg messages
                    (packet.copyOut state.nullHeader descriptors))
                receiverTable := install state.receiverTable descriptors packet.files
                queue := rest }
            else none
  | _ => none

def dispatch (state : State) : Option State :=
  match state.reading with
  | .dispatching status (message :: rest) => some
      { state with
        reading := .dispatching status rest
        dispatched := state.dispatched ++ [message] }
  | _ => none

/-- The end of `readMessageOnHandle`: a permanent failure terminates the channel. -/
def readReturns (state : State) : Option State :=
  match state.reading with
  | .dispatching status [] => some
      { state with
        receiver :=
          if status = .permanentFailure then state.receiver.terminated else state.receiver
        reading := .idle }
  | _ => none

end State

def step (state : State) : Action → Option State
  | .send message =>
      match state.sending with
      | none =>
          if message.size ≤ Channel.maxMessageSize then
            some (state.write message (WriteMessage.enter message))
          else none
      | some _ => none
  | .sendmsgFails errno => state.sendmsgFails errno
  | .sendmsgAccepts control => state.sendmsgAccepts control
  | .poll interrupted => state.poll interrupted
  | .sendReturns => state.sendReturns
  | .terminateSender => some { state with sender := state.sender.terminated }
  | .read =>
      match state.reading with
      | .idle => some { state with reading := state.resume ReadMessages.enter }
      | _ => none
  | .recvmsgFails errno => state.recvmsgFails errno
  | .recvmsg descriptors => state.recvmsg descriptors
  | .dispatch => state.dispatch
  | .readReturns => state.readReturns

/-- A connected pair before the first call, with B's message callback installed. -/
structure Connected (state : State) : Prop where
  senderOpen : 0 < state.sender.handle
  receiverOpen : 0 < state.receiver.handle
  installed : state.receiver.messageReceivedCallback = true
  sending : state.sending = none
  reading : state.reading = .idle
  queue : state.queue = []
  returned : state.returned = []
  dispatched : state.dispatched = []

namespace State

/-- The messages whose sendMessage call returned true, in order. -/
def acknowledged (state : State) : List Message :=
  (state.returned.filter Prod.snd).map Prod.fst

/-- The message whose sendmsg has completed inside a call that still has to return. -/
def inFlight (state : State) : List Message :=
  match state.sending with
  | some (message, .returned .success) => [message]
  | _ => []

def collected (state : State) : List Message := state.reading.collected

end State

end CoreLib.Delivery
