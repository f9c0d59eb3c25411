/-
The state of a Channel object and the parts of its member functions that make no
system call.  The socket is represented by its handle, which is -1 once closed;
its buffers are scratch space of one call.  A callback is represented by whether
one is installed.
-/

import CoreLib.Socket

set_option autoImplicit false

namespace CoreLib

open Socket

structure Channel where
  handle : Int
  ready : Bool
  connected : Bool
  name : List UInt8
  messageReceivedCallback : Bool
  terminationCallback : Bool
deriving DecidableEq, Repr

namespace Channel

/-- `Channel::Channel(std::string)`, given the handle of the socket it creates. -/
def named (name : List UInt8) (handle : Int) : Channel :=
  { handle := handle
    ready := true
    connected := false
    name := name
    messageReceivedCallback := false
    terminationCallback := false }

/-- `Channel::Channel(Handle)` and `Channel::Channel(std::unique_ptr<Socket>)`. -/
def adopted (handle : Int) : Channel :=
  { handle := handle
    ready := true
    connected := true
    name := []
    messageReceivedCallback := false
    terminationCallback := false }

/-- `sendMessage` asserts this of the message it is given. -/
def maxMessageSize : Nat := 1024

/-- The channel after `_socket->close()` and the two assignments of `terminate`. -/
def terminated (channel : Channel) : Channel :=
  { channel with
    handle := -1
    connected := false
    ready := false }

/-- What `sendMessage` accepts, `WriteMessage` does not find too large. -/
theorem enter_small {message : Message} (small : message.size ≤ maxMessageSize) :
    WriteMessage.enter message = .sendmsg := by
  apply if_neg
  simp only [maxMessageSize] at small
  simp only [MaxBufferSize]
  omega

end Channel

end CoreLib
