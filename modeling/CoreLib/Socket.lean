/-
Socket::WriteMessage and Socket::ReadMessages as control points.

Both functions are loops around one system call.  A point names the call that is
about to be made, and the `after` functions say, from the result of that call,
where the function goes next.  The functions share no other state, so any caller
can interleave them with other threads by stepping from point to point.
-/

import CoreLib.ControlMessage
import CoreLib.MessageCodec

set_option autoImplicit false

namespace CoreLib

namespace Socket

def MaxBufferSize : Nat := 4096

inductive Status where
  | success
  | temporaryFailure
  | permanentFailure
deriving DecidableEq, Repr

/-! ### WriteMessage -/

inductive WritePoint where
  | sendmsg
  | poll
  | returned (status : Status)
  | aborted
deriving DecidableEq, Repr

namespace WriteMessage

def enter (message : Message) : WritePoint :=
  if MaxBufferSize < message.size then .returned .temporaryFailure else .sendmsg

/-- The bytes that are written where `msg_control` points to.  They lie in an array of the
block that builds them, and sendmsg is called behind the end of this block. -/
def control (message : Message) : List UInt8 :=
  Control.written (message.attachments.map Attachment.handle)

def afterSendmsg (message : Message) (sent : SysResult) : WritePoint :=
  if sent.Interrupted then .sendmsg
  else if sent.WouldBlock then .poll
  else if sizeOfInt sent.rc ≠ message.size then
    if sent.errno = .EPIPE then .returned .permanentFailure else .returned .temporaryFailure
  else .returned .success

def afterPoll (res : SysResult) : WritePoint :=
  if res.Interrupted then .poll
  else if res.rc = 1 then .sendmsg
  else .aborted

end WriteMessage

/-! ### ReadMessages -/

/-- What one recvmsg leaves in `_buffer`, `_controlBuffer` and the message header, and what
the platform makes of the null header that the control loop begins with. -/
structure Received where
  result : SysResult
  buffer : List UInt8
  control : List UInt8
  truncated : Bool
  nullHeader : Control.NullHeader

def Received.nothing (result : SysResult) : Received :=
  { result := result
    buffer := []
    control := []
    truncated := false
    nullHeader := .dereferenced }

inductive ReadPoint where
  | recvmsg (messages : List Message)
  | returned (status : Status) (messages : List Message)
  | aborted

namespace ReadMessages

def enter : ReadPoint := .recvmsg []

/-- The message of one successful recvmsg, unless an assertion fails.  The
allocation inside the Message constructor is taken to succeed. -/
def readMessage (received : Received) : Option Message :=
  match Message.ofBuffer (received.buffer.take received.result.rc.toNat) (some fun _ => 0) with
  | none => none
  | some message =>
      match Control.attach received.nullHeader received.control message with
      | none => none
      | some attached => if received.truncated then none else some attached

/-- The last branch is a result below -1, which no test in the loop catches. -/
def afterRecvmsg (messages : List Message) (received : Received) : ReadPoint :=
  if received.result.Interrupted then .recvmsg messages
  else if 0 < received.result.rc then
    match readMessage received with
    | none => .aborted
    | some message => .recvmsg (messages ++ [message])
  else if received.result.rc = -1 then
    if received.result.errno = .EAGAIN then .returned .success messages
    else .returned .temporaryFailure messages
  else if received.result.rc = 0 then .returned .permanentFailure messages
  else .recvmsg messages

end ReadMessages

/-! ### The kernel side of a connected pair -/

structure Packet where
  payload : List UInt8
  files : List OpenFile

namespace Packet

def resolve (table : DescriptorTable) : List Int → Option (List OpenFile)
  | [] => some []
  | descriptor :: rest =>
      match table descriptor, resolve table rest with
      | some file, some files => some (file :: files)
      | _, _ => none

/-- What sendmsg enqueues when it finds these bytes at `msg_control`. -/
def ofControl (table : DescriptorTable) (message : Message) (control : List UInt8) :
    Option Packet :=
  (Control.passed control).bind fun descriptors =>
    (resolve table descriptors).map fun files =>
      { payload := message.contents
        files := files }

/-- What sendmsg enqueues when it finds the bytes that `WriteMessage` has written. -/
def ofMessage (table : DescriptorTable) (message : Message) : Option Packet :=
  ofControl table message (WriteMessage.control message)

/-- How many descriptors fit into the control buffer that the reader offers. -/
def controlCapacity : Nat := (MaxControlBufferSize - cmsghdrSize) / ControlBufferItemSize

/-- recvmsg for this packet, with the numbers that the kernel gave to its files. -/
def copyOut (nullHeader : Control.NullHeader) (packet : Packet)
    (descriptors : List Descriptor) : Received :=
  { result :=
      { rc := ((packet.payload.take MaxBufferSize).length : Nat), errno := .other 0 }
    buffer := packet.payload.take MaxBufferSize
    control := Control.received (descriptors.take controlCapacity)
    truncated := decide (controlCapacity < descriptors.length)
    nullHeader := nullHeader }

end Packet

/-! ### What one call does -/

/-- A failed sendmsg never looks like a complete one to the size comparison. -/
theorem afterSendmsg_failure {message : Message} (small : message.size ≤ MaxBufferSize)
    (errno : Errno) :
    WriteMessage.afterSendmsg message (.failure errno) ≠ .returned .success := by
  have different : sizeOfInt (-1) ≠ message.size := by
    unfold sizeOfInt
    simp only [MaxBufferSize] at small
    omega
  unfold WriteMessage.afterSendmsg SysResult.failure
  split
  · nofun
  · split
    · nofun
    · split <;> nofun

theorem afterSendmsg_EBADF {message : Message} (small : message.size ≤ MaxBufferSize) :
    WriteMessage.afterSendmsg message (.failure .EBADF) = .returned .temporaryFailure := by
  have different : sizeOfInt (-1) ≠ message.size := by
    unfold sizeOfInt
    simp only [MaxBufferSize] at small
    omega
  simp only [WriteMessage.afterSendmsg, SysResult.failure, SysResult.Interrupted,
    SysResult.WouldBlock, different, reduceCtorEq, and_false, if_false, ne_eq, not_false_eq_true,
    if_true]

theorem afterSendmsg_complete {message : Message} (small : message.size ≤ MaxBufferSize)
    (errno : Errno) :
    WriteMessage.afterSendmsg message { rc := message.size, errno := errno } =
      .returned .success := by
  have notFailed : ¬ (message.size : Int) = -1 := by omega
  have same : sizeOfInt (message.size : Int) = message.size :=
    sizeOfInt_cast (Nat.lt_of_le_of_lt small (by decide))
  simp only [WriteMessage.afterSendmsg, SysResult.Interrupted, SysResult.WouldBlock, notFailed,
    false_and, if_false, same, ne_eq, not_true_eq_false]

theorem resolve_map {table : DescriptorTable} {descriptors : List Int} {files : List OpenFile}
    (resolved : Packet.resolve table descriptors = some files) :
    descriptors.map table = files.map some := by
  induction descriptors generalizing files with
  | nil =>
      cases resolved
      rfl
  | cons descriptor rest ih =>
      simp only [Packet.resolve] at resolved
      cases here : table descriptor with
      | none =>
          rw [here] at resolved
          contradiction
      | some file =>
          cases later : Packet.resolve table rest with
          | none =>
              rw [here, later] at resolved
              contradiction
          | some others =>
              rw [here, later] at resolved
              cases resolved
              rw [List.map_cons, List.map_cons, here, ih later]

theorem resolve_of_open {table : DescriptorTable} {descriptors : List Int}
    (opened : ∀ descriptor ∈ descriptors, (table descriptor).isSome = true) :
    ∃ files, Packet.resolve table descriptors = some files := by
  induction descriptors with
  | nil => exact ⟨[], rfl⟩
  | cons descriptor rest ih =>
      obtain ⟨file, here⟩ := Option.isSome_iff_exists.mp (opened descriptor (List.mem_cons_self ..))
      obtain ⟨files, later⟩ := ih fun other member => opened other (List.mem_cons_of_mem _ member)
      exact ⟨file :: files, by simp only [Packet.resolve, here, later]⟩

/-- The kernel sees the attachments of the message in their order. -/
theorem passed_control (message : Message) (few : message.attachments.length < 2 ^ 32) :
    Control.passed (WriteMessage.control message) =
      some (message.attachments.map Attachment.handle) := by
  apply Control.passed_written
  · rw [List.length_map]
    exact few
  · intro descriptor member
    obtain ⟨attachment, _, same⟩ := List.mem_map.mp member
    subst descriptor
    exact ⟨attachment.lower, attachment.upper⟩

/-- Payload and open files: what a message means to the process that holds it. -/
abbrev Parcel := List UInt8 × List (Option OpenFile)

def parcel (table : DescriptorTable) (message : Message) : Parcel :=
  (message.contents, message.attachments.map fun attachment => table attachment.handle)

def Packet.parcel (packet : Packet) : Parcel := (packet.payload, packet.files.map some)

theorem ofMessage_parcel {table : DescriptorTable} {message : Message} {packet : Packet}
    (few : message.attachments.length < 2 ^ 32)
    (enqueued : Packet.ofMessage table message = some packet) :
    packet.parcel = parcel table message := by
  rw [Packet.ofMessage, Packet.ofControl, passed_control message few,
    Option.bind_some] at enqueued
  obtain ⟨files, resolved, built⟩ := Option.map_eq_some_iff.mp enqueued
  subst packet
  have same := resolve_map resolved
  rw [List.map_map] at same
  simp only [Packet.parcel, parcel, ← same]
  rfl

theorem ofMessage_of_open {table : DescriptorTable} {message : Message}
    (few : message.attachments.length < 2 ^ 32)
    (opened : ∀ attachment ∈ message.attachments, (table attachment.handle).isSome = true) :
    ∃ packet, Packet.ofMessage table message = some packet ∧
      packet.payload = message.contents ∧
      packet.files.length = message.attachments.length := by
  have numbers : ∀ descriptor ∈ message.attachments.map Attachment.handle,
      (table descriptor).isSome = true := by
    intro descriptor member
    obtain ⟨attachment, attached, same⟩ := List.mem_map.mp member
    rw [← same]
    exact opened attachment attached
  obtain ⟨files, resolved⟩ := resolve_of_open numbers
  have count := congrArg List.length (resolve_map resolved)
  rw [List.length_map, List.length_map, List.length_map] at count
  refine ⟨{ payload := message.contents, files := files }, ?_, rfl, count.symm⟩
  rw [Packet.ofMessage, Packet.ofControl, passed_control message few, Option.bind_some,
    resolved]
  rfl

/-- A message without attachments has no control bytes that could get lost. -/
theorem control_bare {message : Message} (bare : message.attachments = []) :
    WriteMessage.control message = [] := by
  rw [WriteMessage.control, bare]
  rfl

/-- The kernel may find an item of another level where the writer's array was, and then it
passes the payload on without files. -/
theorem foreign_control (table : DescriptorTable) {message : Message}
    (few : message.attachments.length < 2 ^ 16) (attached : message.attachments ≠ []) :
    ∃ control : List UInt8, control.length = (WriteMessage.control message).length ∧
      Packet.ofControl table message control = some
        { payload := message.contents
          files := [] } := by
  have positive : (message.attachments.map Attachment.handle).length ≠ 0 := by
    rw [List.length_map]
    exact fun empty => attached (List.length_eq_zero_iff.mp empty)
  let rest := List.replicate (ControlBufferItemSize * message.attachments.length) (0 : UInt8)
  refine ⟨Control.header (cmsghdrSize + rest.length) 0 0 ++ rest, ?_, ?_⟩
  · rw [WriteMessage.control, Control.written, if_neg positive, Control.rightsItem,
      List.length_append, List.length_append, Control.header_length, Control.header_length,
      Foundation.writeFields_length, List.length_replicate, List.length_map, List.length_map]
    rfl
  · have short : rest.length < 2 ^ 32 := by
      rw [List.length_replicate]
      simp only [ControlBufferItemSize]
      omega
    rw [Packet.ofControl, Control.passed_foreign short]
    rfl

/-- A failed recvmsg keeps the batch and never reports a permanent failure. -/
theorem afterRecvmsg_failure (messages : List Message) (errno : Errno) :
    ReadMessages.afterRecvmsg messages (.nothing (.failure errno)) = .recvmsg messages ∨
      ∃ status, status ≠ .permanentFailure ∧
        ReadMessages.afterRecvmsg messages (.nothing (.failure errno)) =
          .returned status messages := by
  cases errno with
  | EINTR => exact Or.inl rfl
  | EAGAIN => exact Or.inr ⟨.success, nofun, rfl⟩
  | EPIPE => exact Or.inr ⟨.temporaryFailure, nofun, rfl⟩
  | EBADF => exact Or.inr ⟨.temporaryFailure, nofun, rfl⟩
  | other number => exact Or.inr ⟨.temporaryFailure, nofun, rfl⟩

/-- An empty packet is indistinguishable from an orderly shutdown. -/
theorem afterRecvmsg_empty (nullHeader : Control.NullHeader) (messages : List Message)
    {packet : Packet} (empty : packet.payload = []) (descriptors : List Descriptor) :
    ReadMessages.afterRecvmsg messages (packet.copyOut nullHeader descriptors) =
      .returned .permanentFailure messages := by
  simp only [ReadMessages.afterRecvmsg, Packet.copyOut, empty, List.take_nil, List.length_nil,
    SysResult.Interrupted]
  rfl

section Receiving

variable {nullHeader : Control.NullHeader} {packet : Packet}

private theorem copyOut_positive (nonempty : packet.payload ≠ [])
    (messages : List Message) (descriptors : List Descriptor) :
    ReadMessages.afterRecvmsg messages (packet.copyOut nullHeader descriptors) =
      match ReadMessages.readMessage (packet.copyOut nullHeader descriptors) with
      | none => .aborted
      | some message => .recvmsg (messages ++ [message]) := by
  have some_ : 0 < packet.payload.length := List.length_pos_iff.mpr nonempty
  have positive : (0 : Int) < ((packet.payload.take MaxBufferSize).length : Nat) := by
    rw [List.length_take]
    simp only [MaxBufferSize]
    omega
  have notInterrupted : ¬ (packet.copyOut nullHeader descriptors).result.Interrupted := by
    rintro ⟨failed, _⟩
    change (((packet.payload.take MaxBufferSize).length : Nat) : Int) = -1 at failed
    omega
  unfold ReadMessages.afterRecvmsg
  rw [if_neg notInterrupted,
    if_pos (show 0 < (packet.copyOut nullHeader descriptors).result.rc from positive)]

private theorem readMessage_copyOut (nullHeader : Control.NullHeader) (packet : Packet)
    (descriptors : List Descriptor) :
    ∃ message, message.contents = packet.payload.take MaxBufferSize ∧
      message.attachments = [] ∧
      ReadMessages.readMessage (packet.copyOut nullHeader descriptors) =
        match Control.attach nullHeader
          (Control.received (descriptors.take Packet.controlCapacity)) message with
        | none => none
        | some attached =>
            if decide (Packet.controlCapacity < descriptors.length) then none
            else some attached := by
  obtain ⟨message, built, _, _, _, contents, attachments⟩ :=
    Message.ofBuffer_spec (packet.payload.take MaxBufferSize) fun _ => 0
  have whole : (packet.copyOut nullHeader descriptors).buffer.take
      (packet.copyOut nullHeader descriptors).result.rc.toNat =
        packet.payload.take MaxBufferSize :=
    List.take_length
  refine ⟨message, contents, attachments, ?_⟩
  unfold ReadMessages.readMessage
  rw [whole, built]
  rfl

/-- A packet with payload becomes one more message when it has no file, or one file and the
control loop can start. -/
theorem afterRecvmsg_packet (messages : List Message) (nonempty : packet.payload ≠ [])
    (small : packet.payload.length ≤ MaxBufferSize) {descriptors : List Descriptor}
    (few : descriptors.length ≤ 1) (starts : descriptors ≠ [] → nullHeader = .yieldsFirst) :
    ∃ message, ReadMessages.afterRecvmsg messages (packet.copyOut nullHeader descriptors) =
        .recvmsg (messages ++ [message]) ∧
      message.contents = packet.payload ∧
      message.attachments = descriptors.map Control.attachmentOf := by
  obtain ⟨message, contents, fresh, read⟩ := readMessage_copyOut nullHeader packet descriptors
  rw [List.take_of_length_le small] at contents
  rw [copyOut_positive nonempty, read]
  cases descriptors with
  | nil =>
      refine ⟨message, ?_, contents, fresh⟩
      rw [List.take_nil, Control.attach_received_nil]
      rfl
  | cons descriptor rest =>
      have single : rest = [] := by
        rw [List.length_cons] at few
        exact List.length_eq_zero_iff.mp (by omega)
      subst rest
      cases starts (List.cons_ne_nil descriptor [])
      obtain ⟨extended, attached, sameContents, _, one⟩ :=
        Control.attach_received_one fresh descriptor
      refine ⟨extended, ?_, by rw [sameContents, contents], one⟩
      have kept : [descriptor].take Packet.controlCapacity = [descriptor] := rfl
      rw [kept, attached]
      rfl

/-- A packet with two or more files ends the reader. -/
theorem afterRecvmsg_several (messages : List Message) (nonempty : packet.payload ≠ [])
    {descriptors : List Descriptor} (several : 2 ≤ descriptors.length) :
    ReadMessages.afterRecvmsg messages (packet.copyOut nullHeader descriptors) = .aborted := by
  obtain ⟨message, _, _, read⟩ := readMessage_copyOut nullHeader packet descriptors
  have capacity : Packet.controlCapacity = 8 := by decide
  have kept : 2 ≤ (descriptors.take Packet.controlCapacity).length := by
    rw [List.length_take, capacity]
    omega
  have bounded : (descriptors.take Packet.controlCapacity).length < 2 ^ 32 := by
    rw [List.length_take, capacity]
    omega
  rw [copyOut_positive nonempty, read,
    Control.attach_received_many nullHeader message kept bounded]

end Receiving

end Socket

end CoreLib
