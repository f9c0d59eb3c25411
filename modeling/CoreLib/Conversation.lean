/-
Typed values from one end of a link to the other.

A message is composed by calls of encode and of the other member functions in any order.
What the callback gets for it decodes to the same values, whatever the blocks of the two
messages were, and to nothing else.
-/

import CoreLib.MessageOperations
import CoreLib.RendezvousDelivery

set_option autoImplicit false

namespace CoreLib

open Foundation

namespace Message

/-! ### Composing and reading -/

inductive Composed : Message → List Value → Prop where
  | created (reservedLength : Nat) (reservation : Allocation) (message : Message)
      (built : create reservedLength reservation = some message) : Composed message []
  | encoded (message next : Message) (values : List Value) (value : Value)
      (allocation : Allocation) (composed : Composed message values)
      (returned : message.encode value allocation = some (true, next)) :
      Composed next (values ++ [value])
  | refused (message next : Message) (values : List Value) (value : Value)
      (allocation : Allocation) (composed : Composed message values)
      (returned : message.encode value allocation = some (false, next)) : Composed next values
  | performed (message next : Message) (values : List Value) (operation : Operation)
      (composed : Composed message values)
      (other : ∀ value allocation, operation ≠ .encode value allocation)
      (returned : message.perform operation = some next) : Composed next values

theorem perform_contents {message next : Message} {operation : Operation}
    (other : ∀ value allocation, operation ≠ .encode value allocation)
    (returned : message.perform operation = some next) : next.contents = message.contents := by
  cases operation with
  | reserve length bounded allocation =>
      obtain ⟨⟨success, reserved⟩, granted, same⟩ := Option.map_eq_some_iff.mp returned
      subst same
      rcases reserve_cases granted with ⟨_, unchanged⟩ | ⟨_, grown⟩
      · rw [unchanged]
      · exact grown.contents
  | encode value allocation => exact absurd rfl (other value allocation)
  | decode size =>
      obtain ⟨⟨bytes, read⟩, decoded, same⟩ := Option.map_eq_some_iff.mp returned
      subst same
      cases bytes with
      | none => rw [(decode_refused decoded).2]
      | some copied =>
          obtain ⟨_, _, _, block, length⟩ := decode_granted decoded
          rw [contents, contents, block, length]
  | addAttachment attachment =>
      simp only [perform, addAttachment] at returned
      split at returned
      · cases returned
        rfl
      · contradiction

theorem Composed.contents {message : Message} {values : List Value}
    (composed : Composed message values) : message.contents = representation values := by
  induction composed with
  | created reservedLength reservation message built =>
      obtain ⟨initial, created, empty, _, _⟩ := create_spec reservedLength reservation
      rw [built] at created
      cases created
      rw [Message.contents, empty]
      rfl
  | encoded message next values value allocation composed returned ih =>
      rcases encode_cases returned with ⟨impossible, _⟩ | ⟨_, appended, _⟩
      · contradiction
      · rw [appended, ih]
        simp [representation]
  | refused message next values value allocation composed returned ih =>
      rcases encode_cases returned with ⟨_, same⟩ | ⟨impossible, _⟩
      · rw [same]
        exact ih
      · contradiction
  | performed message next values operation composed other returned ih =>
      rw [perform_contents other returned]
      exact ih

/-- A message as `Message(const uint8_t *, size_t)` builds it, before anything is read. -/
structure Copied (message : Message) : Prop where
  full : message.dataLength = message.bufferLength
  unread : message.sizeRead = 0
  small : message.bufferLength ≤ Socket.MaxBufferSize

theorem Copied.decodes {message : Message} (copied : Copied message) {values : List Value}
    (holds : message.contents = representation values) :
    ∃ drained, message.decodeAll (values.map Value.size) =
        some (values.map fun value => some value.bytes, drained) ∧
      ∀ size, drained.decode size = some (none, drained) := by
  have whole : message.block = representation values := by
    rw [← holds, contents, copied.full, ← block_length, List.take_length]
  have bounded : message.bufferLength ≤ 2 ^ 63 := Nat.le_trans copied.small (by decide)
  obtain ⟨drained, decoded, capacity, read⟩ :=
    decodeAll_spec values message [] bounded copied.unread whole
  exact ⟨drained, decoded, decode_drained (by rw [capacity]; exact bounded) read⟩

theorem addAttachment_copied {message next : Message} {attachment : Attachment}
    (copied : Copied message) (returned : message.addAttachment attachment = some next) :
    Copied next := by
  simp only [addAttachment] at returned
  split at returned
  · cases returned
    exact ⟨copied.full, copied.unread, copied.small⟩
  · contradiction

end Message

/-! ### What ReadMessages collects -/

namespace Socket

open Message

theorem collect_copied {nullHeader : Control.NullHeader} {control : List UInt8} {rounds : Nat}
    {cmsgh : Option Nat} {message next : Message} (copied : Copied message)
    (returned : Control.collect nullHeader control rounds cmsgh message = some next) :
    Copied next := by
  induction rounds generalizing cmsgh message with
  | zero =>
      cases returned
      exact copied
  | succ rounds ih =>
      simp only [Control.collect] at returned
      split at returned
      · contradiction
      · cases returned
        exact copied
      · repeat' split at returned
        any_goals contradiction
        rename_i extended added
        exact ih (addAttachment_copied copied added) returned

theorem attach_copied {nullHeader : Control.NullHeader} {control : List UInt8}
    {message next : Message} (copied : Copied message)
    (returned : Control.attach nullHeader control message = some next) : Copied next := by
  unfold Control.attach at returned
  split at returned
  · cases returned
    exact copied
  · exact collect_copied copied returned

/-- Each message is a copy of the bytes of one recvmsg. -/
theorem readMessage_copied {received : Received} {message : Message}
    (small : received.buffer.length ≤ MaxBufferSize)
    (read : ReadMessages.readMessage received = some message) : Copied message := by
  obtain ⟨built, made, _, capacity, cursor, contents, _⟩ :=
    ofBuffer_spec (received.buffer.take received.result.rc.toNat) fun _ => 0
  have length : (received.buffer.take received.result.rc.toNat).length ≤ MaxBufferSize := by
    rw [List.length_take]
    omega
  have fresh : Copied built := by
    refine ⟨?_, cursor, by rw [capacity]; exact length⟩
    rw [capacity, ← contents, contents_length]
  simp only [ReadMessages.readMessage, made] at read
  split at read
  · contradiction
  · rename_i attached collected
    split at read
    · contradiction
    · cases read
      exact attach_copied fresh collected

def ReadPoint.messages : ReadPoint → List Message
  | .recvmsg messages => messages
  | .returned _ messages => messages
  | .aborted => []

theorem afterRecvmsg_messages (messages : List Message) {received : Received}
    (small : received.buffer.length ≤ MaxBufferSize) :
    ∀ message ∈ (ReadMessages.afterRecvmsg messages received).messages,
      message ∈ messages ∨ Copied message := by
  intro message member
  unfold ReadMessages.afterRecvmsg at member
  split at member
  · exact Or.inl member
  · split at member
    · split at member
      · contradiction
      · rename_i built read
        rcases List.mem_append.mp member with earlier | newest
        · exact Or.inl earlier
        · rw [List.mem_singleton.mp newest]
          exact Or.inr (readMessage_copied small read)
    · split at member
      · split at member
        · exact Or.inl member
        · exact Or.inl member
      · split at member
        · exact Or.inl member
        · exact Or.inl member

end Socket

namespace Delivery

open Message Socket

def Copies (state : State) : Prop := ∀ message ∈ state.dispatched ++ state.collected, Copied message

theorem ofPoint_collected {callback : Bool} {point : ReadPoint} {message : Message}
    (member : message ∈ (Reading.ofPoint callback point).collected) :
    message ∈ point.messages := by
  cases point with
  | recvmsg messages => exact member
  | returned status messages =>
      cases callback with
      | false => contradiction
      | true => exact member
  | aborted => contradiction

theorem Copies.received {state next : State} (copies : Copies state) {messages : List Message}
    {received : Received} (reading : state.reading = .receiving messages)
    (small : received.buffer.length ≤ MaxBufferSize)
    (point : next.reading = state.resume (ReadMessages.afterRecvmsg messages received))
    (dispatched : next.dispatched = state.dispatched) : Copies next := by
  intro message member
  rw [dispatched, State.collected, point] at member
  rcases List.mem_append.mp member with earlier | batch
  · exact copies message (List.mem_append_left _ earlier)
  · rcases afterRecvmsg_messages messages small message (ofPoint_collected batch) with
      earlier | copied
    · apply copies message
      rw [State.collected, reading]
      exact List.mem_append_right _ earlier
    · exact copied

theorem Copies.step {state next : State} {action : Action} (copies : Copies state)
    (enabled : step state action = some next) : Copies next := by
  cases action with
  | send message =>
      obtain ⟨_, _, same⟩ := send_cases enabled
      subst next
      exact copies
  | sendmsgFails errno =>
      obtain ⟨_, _, same⟩ := sendmsgFails_cases enabled
      subst next
      exact copies
  | sendmsgAccepts control =>
      obtain ⟨_, _, _, _, _, _, same⟩ := sendmsgAccepts_cases enabled
      subst next
      exact copies
  | poll interrupted =>
      obtain ⟨_, _, same | same⟩ := poll_cases enabled
      · subst next
        exact copies
      · subst next
        exact copies
  | sendReturns =>
      obtain ⟨_, status, _, same⟩ := sendReturns_cases enabled
      subst next
      exact copies
  | terminateSender =>
      cases enabled
      exact copies
  | read =>
      obtain ⟨idle, same⟩ := read_cases enabled
      subst next
      intro message member
      rcases List.mem_append.mp member with earlier | impossible
      · exact copies message (List.mem_append_left _ earlier)
      · contradiction
  | recvmsgFails errno =>
      simp only [Delivery.step, State.recvmsgFails] at enabled
      split at enabled
      · rename_i messages reading
        split at enabled
        · contradiction
        · cases enabled
          exact copies.received reading (Nat.zero_le _) rfl rfl
      · contradiction
  | recvmsg descriptors =>
      simp only [Delivery.step, State.recvmsg] at enabled
      split at enabled
      · rename_i messages reading
        split at enabled
        · contradiction
        · split at enabled
          · cases enabled
            exact copies.received reading (Nat.zero_le _) rfl rfl
          · rename_i packet rest waiting
            split at enabled
            · cases enabled
              have small : (packet.copyOut state.nullHeader descriptors).buffer.length ≤
                  MaxBufferSize :=
                List.length_take_le ..
              exact copies.received reading small rfl rfl
            · contradiction
      · contradiction
  | dispatch =>
      obtain ⟨status, first, rest, dispatching, same⟩ := dispatch_cases enabled
      subst next
      intro message member
      apply copies message
      rw [State.collected, dispatching]
      simpa [State.collected, Reading.collected] using member
  | readReturns =>
      obtain ⟨status, dispatching, same⟩ := readReturns_cases enabled
      subst next
      intro message member
      rcases List.mem_append.mp member with earlier | impossible
      · exact copies message (List.mem_append_left _ earlier)
      · contradiction

end Delivery

/-! ### Over every link -/

namespace Rendezvous.Network

open Message Delivery

variable {Id : Type} [DecidableEq Id]

variable {capacity : Nat} {net next : Network Id} {action : Action Id}

/-- What holds of a fresh connection and does not depend on who receives is kept on every
link if the steps of the two ends keep it. -/
theorem Transition.links {holds : Delivery.State → Prop}
    (fresh : ∀ (id : Id) serial channel table, holds (Link.fresh id serial channel table).state)
    (adopts : ∀ state receiver table, holds state →
      holds { state with receiver := receiver, receiverTable := table })
    (steps : ∀ state moved after, holds state → Delivery.step state moved = some after →
      holds after)
    (transition : Transition capacity net action next)
    (all : ∀ number link, net.links number = some link → holds link.state) :
    ∀ number link, next.links number = some link → holds link.state := by
  cases transition with
  | fails => exact all
  | stays => exact all
  | constructs => exact all
  | sets => exact all
  | destroys id live path listed named =>
      intro number now found
      obtain ⟨old, earlier, same⟩ := Option.map_eq_some_iff.mp found
      split at same
      · subst same
        exact all number old earlier
      · subst same
        exact all number old earlier
  | creates => exact all
  | connects id refused table channel serial listed opened answers =>
      apply forall_update
      · intro number link _ found
        exact all number link found
      · intro link same
        cases same
        exact fresh id serial channel table
  | terminates => exact all
  | accepts id handle table keeps live number rest link listed waiting found =>
      apply forall_update
      · intro other now _ present
        exact all other now present
      · intro now same
        cases same
        unfold answer
        split
        · exact adopts link.state _ table (all number link found)
        · exact all number link found
  | releases number link found accepted =>
      apply forall_update
      · intro other now _ present
        exact all other now present
      · intro now same
        cases same
        exact all number link found
  | transfers number moved link state found permitted enabled =>
      apply forall_update
      · intro other now _ present
        exact all other now present
      · intro now same
        cases same
        exact steps link.state moved state (all number link found) enabled

end Rendezvous.Network

end CoreLib
