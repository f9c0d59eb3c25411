/-
How clients and servers find each other.

A network has servers, channels that were created for a name, and the listening sockets
with the connections that wait in them.  tryConnect asks for the socket behind the file
of its name, and the readable source of a server answers one waiting connection at a
time.  A link is an established connection in the direction from client to server; its
state is the one of Delivery, so the client can send before anybody has answered.  Each
action is one call of the library, or one step inside a link.
-/

import CoreLib.Delivery
import CoreLib.ServerEndpoints

set_option autoImplicit false

namespace CoreLib.Rendezvous

open Foundation Socket

/-- Whether the server has answered a link and what has become of the channel it made. -/
inductive Phase where
  | waiting
  | refused
  | accepted
  | closed
deriving DecidableEq, Repr

/-- An established connection.  Until it is accepted, the receiver of its state stands for
the end that the kernel keeps, which nobody can read. -/
structure Link (Id : Type) where
  client : Id
  serial : Nat
  phase : Phase
  state : Delivery.State

/-- A listening socket by its serial, with every connection made to it and what the server
answered, where the flag says that it went to the callback. -/
structure Listening where
  file : Option (List UInt8)
  opened : Bool
  queue : List Nat
  established : List Nat
  answered : List (Nat × Bool)

def Listening.unused : Listening :=
  { file := none
    opened := false
    queue := []
    established := []
    answered := [] }

/-- A server with the serial of its socket and whether it has a
`_channelAvailablilityCallback`. -/
structure Listener where
  server : Server
  serial : Nat
  callback : Bool

/-- A channel created for a name.  Once connected it is the sender of its link. -/
inductive Client where
  | unconnected (channel : Channel)
  | connected (number : Nat)

structure Network (Id : Type) where
  names : Server.Names
  nextSerial : Nat
  nextLink : Nat
  servers : Id → Option Listener
  clients : Id → Option Client
  sockets : Nat → Listening
  links : Nat → Option (Link Id)
  failed : Bool

/-- A number for a new socket; 0 is taken as long as standard input is open. -/
abbrev FreshHandle := { handle : Nat // 0 < handle }

/-- The flag of tryConnect says that the kernel refuses for a reason of its own; the one of
accept that the callback keeps the channel and gives it a message callback. -/
inductive Action (Id : Type) where
  | construct (id : Id) (name : Server.EndpointName) (handle : FreshHandle)
  | setCallback (id : Id) (callback : Bool)
  | destroy (id : Id)
  | create (id : Id) (name : Server.EndpointName) (handle : FreshHandle)
  | tryConnect (id : Id) (refused : Bool) (table : DescriptorTable)
  | terminate (id : Id)
  | accept (id : Id) (handle : FreshHandle) (table : DescriptorTable) (keeps : Bool)
  | acceptFails (id : Id)
  | release (number : Nat)
  | transfer (number : Nat) (action : Delivery.Action)

def ofSender : Delivery.Action → Bool
  | .send _ => true
  | .sendmsgFails _ => true
  | .sendmsgAccepts _ => true
  | .poll _ => true
  | .sendReturns => true
  | .terminateSender => true
  | .read => false
  | .recvmsgFails _ => false
  | .recvmsg _ => false
  | .dispatch => false
  | .readReturns => false

def movesPacket : Delivery.Action → Bool
  | .sendmsgAccepts _ => true
  | .recvmsg _ => true
  | _ => false

/-- Nobody reads before the connection is accepted, and no packet enters or leaves a link
whose server end is closed. -/
def Phase.permits : Phase → Delivery.Action → Bool
  | .waiting, action => ofSender action
  | .refused, action => ofSender action && !movesPacket action
  | .accepted, _ => true
  | .closed, action => !movesPacket action

namespace Link

variable {Id : Type}

def fresh (client : Id) (serial : Nat) (channel : Channel) (table : DescriptorTable) : Link Id :=
  { client := client
    serial := serial
    phase := .waiting
    state :=
      { nullHeader := .dereferenced
        sender := { channel with connected := true }
        receiver := { Channel.adopted 1 with messageReceivedCallback := true }
        senderTable := table
        receiverTable := fun _ => none
        sending := none
        reading := .idle
        queue := []
        returned := []
        dispatched := [] } }

def adopt (link : Link Id) (handle : Int) (table : DescriptorTable) : Link Id :=
  { link with
    phase := .accepted
    state :=
      { link.state with
        receiver := { Channel.adopted handle with messageReceivedCallback := true }
        receiverTable := table } }

def inPhase (link : Link Id) (phase : Phase) : Link Id := { link with phase := phase }

end Link

namespace Network

variable {Id : Type} [DecidableEq Id]

def start (stale : List UInt8 → Option Nat) : Network Id :=
  { names := fun file => (stale file).map Server.Endpoint.stale
    nextSerial := 0
    nextLink := 0
    servers := fun _ => none
    clients := fun _ => none
    sockets := fun _ => Listening.unused
    links := fun _ => none
    failed := false }

variable (net : Network Id)

def fail : Network Id := { net with failed := true }

def setSocket (serial : Nat) (socket : Listening) : Network Id :=
  { net with sockets := Function.update net.sockets serial socket }

def setLink (number : Nat) (link : Link Id) : Network Id :=
  { net with links := Function.update net.links number (some link) }

def setClient (id : Id) (client : Client) : Network Id :=
  { net with clients := Function.update net.clients id (some client) }

/-! ### Servers -/

def listening (id : Id) (server : Server) (names : Server.Names) : Network Id :=
  { net.setSocket net.nextSerial
      { Listening.unused with
        file := Server.fileOf server.name
        opened := true } with
    names := names
    nextSerial := net.nextSerial + 1
    servers := Function.update net.servers id (some
      { server := server
        serial := net.nextSerial
        callback := false }) }

def construct (id : Id) (name : Server.EndpointName) (handle : FreshHandle) :
    Option (Network Id) :=
  if (net.servers id).isSome then none
  else
    match Server.constructIn net.names net.nextSerial name handle.val with
    | some (.finished server names) => some (net.listening id server names)
    | _ => some net.fail

def setCallback (id : Id) (callback : Bool) : Option (Network Id) :=
  (net.servers id).map fun live =>
    { net with servers := Function.update net.servers id (some
      { live with callback := callback }) }

/-- The kernel drops what waits in a socket that is closed. -/
def dropWaiting (serial : Nat) (links : Nat → Option (Link Id)) : Nat → Option (Link Id) :=
  fun number => (links number).map fun link =>
    if link.serial = serial ∧ link.phase = .waiting then link.inPhase .refused else link

def shut (id : Id) (serial : Nat) (names : Server.Names) : Network Id :=
  { net.setSocket serial { net.sockets serial with opened := false } with
    names := names
    servers := Function.update net.servers id none
    links := dropWaiting serial net.links }

def destroy (id : Id) : Option (Network Id) :=
  match net.servers id with
  | none => none
  | some live =>
      match Server.destruct net.names live.server with
      | none => some net.fail
      | some names => some (net.shut id live.serial names)

/-! ### Clients -/

def create (id : Id) (name : Server.EndpointName) (handle : FreshHandle) :
    Option (Network Id) :=
  if (net.clients id).isSome then none
  else some (net.setClient id (.unconnected (Channel.named name handle.val)))

/-- The listening socket that takes a connection to this name. -/
def answering (capacity : Nat) (name : List UInt8) : Option Nat :=
  match Server.fileOf name with
  | none => none
  | some file =>
      match net.names file with
      | some (.bound serial) =>
          if (net.sockets serial).opened = true ∧
              (net.sockets serial).queue.length < capacity then
            some serial
          else none
      | _ => none

def establish (id : Id) (channel : Channel) (serial : Nat) (table : DescriptorTable) :
    Network Id :=
  { ((net.setLink net.nextLink (.fresh id serial channel table)).setClient id
      (.connected net.nextLink)).setSocket serial
      { net.sockets serial with
        queue := (net.sockets serial).queue ++ [net.nextLink]
        established := (net.sockets serial).established ++ [net.nextLink] } with
    nextLink := net.nextLink + 1 }

/-- `Channel::tryConnect` with its result.  A socket that is connected or closed takes no
connect. -/
def tryConnect (capacity : Nat) (id : Id) (refused : Bool) (table : DescriptorTable) :
    Option (Bool × Network Id) :=
  match net.clients id with
  | none => none
  | some (.connected number) =>
      (net.links number).map fun link => (link.state.sender.connected, net)
  | some (.unconnected channel) =>
      if channel.connected then some (true, net)
      else if channel.handle = -1 ∨ refused = true then some (false, net)
      else
        match net.answering capacity channel.name with
        | none => some (false, net)
        | some serial => some (true, net.establish id channel serial table)

/-- `Channel::terminate` before there is a link; later it is a step of the link. -/
def terminate (id : Id) : Option (Network Id) :=
  match net.clients id with
  | some (.unconnected channel) => some (net.setClient id (.unconnected channel.terminated))
  | _ => none

/-! ### Connections -/

/-- The end of `onConnectionAvailableForAccept` for a link: without a callback it is
closed, and so it is when the callback lets the channel go. -/
def answer (link : Link Id) (callback : Bool) (handle : FreshHandle) (table : DescriptorTable)
    (keeps : Bool) : Link Id :=
  if callback = true ∧ keeps = true then link.adopt handle.val table
  else link.inPhase .refused

/-- `Server::onConnectionAvailableForAccept`; accept blocks while nothing waits. -/
def accept (id : Id) (handle : FreshHandle) (table : DescriptorTable) (keeps : Bool) :
    Option (Network Id) :=
  match net.servers id with
  | none => none
  | some live =>
      match (net.sockets live.serial).queue with
      | [] => none
      | number :: rest =>
          (net.links number).map fun link =>
            (net.setLink number (answer link live.callback handle table keeps)).setSocket
              live.serial
              { net.sockets live.serial with
                queue := rest
                answered := (net.sockets live.serial).answered ++ [(number, live.callback)] }

def releaseLink (number : Nat) : Option (Network Id) :=
  match net.links number with
  | none => none
  | some link =>
      if link.phase = .accepted then some (net.setLink number (link.inPhase .closed)) else none

def transfer (number : Nat) (action : Delivery.Action) : Option (Network Id) :=
  match net.links number with
  | none => none
  | some link =>
      if link.phase.permits action = true then
        (Delivery.step link.state action).map fun state =>
          net.setLink number { link with state := state }
      else none

/-- One step, with the number of connections that the kernel lets wait in a socket. -/
def step (capacity : Nat) (net : Network Id) (action : Action Id) : Option (Network Id) :=
  if net.failed then none
  else
    match action with
    | .construct id name handle => net.construct id name handle
    | .setCallback id callback => net.setCallback id callback
    | .destroy id => net.destroy id
    | .create id name handle => net.create id name handle
    | .tryConnect id refused table => (net.tryConnect capacity id refused table).map Prod.snd
    | .terminate id => net.terminate id
    | .accept id handle table keeps => net.accept id handle table keeps
    | .acceptFails id => (net.servers id).map fun _ => net.fail
    | .release number => net.releaseLink number
    | .transfer number action => net.transfer number action

end Network

end CoreLib.Rendezvous
