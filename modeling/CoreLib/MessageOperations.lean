/-
Every member function that changes a message, as one step.

The constructor `Message(size_t)` is the reservation of its argument on a message
without a block, so the runs from `Message.empty` that begin with a reservation are the
runs of such messages with the constructor itself as the first step.  Two facts about a
step are what whole runs rest on: which calls add an attachment, and for which request a
call obtains another block.
-/

import CoreLib.Foundation.Runs
import CoreLib.MessageCursors
import CoreLib.MessageReserve

set_option autoImplicit false

namespace CoreLib

open Foundation

namespace Message

inductive Operation where
  | reserve (length : Nat) (bounded : length < 2 ^ 64) (allocation : Allocation)
  | encode (value : Value) (allocation : Allocation)
  | decode (size : ObjectSize)
  | addAttachment (attachment : Attachment)

/-- The message after the call.  A failed assertion and a copy outside the block end
the run. -/
def perform (message : Message) : Operation → Option Message
  | .reserve length _ allocation => (message.reserve length allocation).map Prod.snd
  | .encode value allocation => (message.encode value allocation).map Prod.snd
  | .decode size => (message.decode size).map Prod.snd
  | .addAttachment attachment => message.addAttachment attachment

def Operation.attaches : Operation → Bool
  | .addAttachment _ => true
  | _ => false

def Operation.reservation (message : Message) : Operation → Option (Nat × Allocation)
  | .reserve length _ allocation => some (length, allocation)
  | .encode value allocation =>
      some ((message.dataLength + value.bytes.length) % 2 ^ 64, allocation)
  | .decode _ => none
  | .addAttachment _ => none

inductive Fresh : Message → Prop where
  | created (reservedLength : Nat) (reservation : Allocation) (message : Message)
      (built : create reservedLength reservation = some message) : Fresh message
  | copied (bytes : List UInt8) (allocation : Allocation) (message : Message)
      (built : ofBuffer bytes allocation = some message) : Fresh message

theorem create_eq_perform {reservedLength : Nat} (bounded : reservedLength < 2 ^ 64)
    (allocation : Allocation) :
    create reservedLength allocation =
      perform .empty (.reserve reservedLength bounded allocation) := rfl

theorem Fresh.attachments {message : Message} (fresh : Fresh message) :
    message.attachments = [] := by
  cases fresh with
  | created reservedLength reservation message built =>
      obtain ⟨same, returned, _, _, none_yet⟩ := create_spec reservedLength reservation
      rw [built] at returned
      cases returned
      exact none_yet
  | copied bytes allocation message built =>
      obtain ⟨fill, _, same⟩ := Option.map_eq_some_iff.mp built
      subst same
      rfl

/-! ### One call -/

theorem Operation.reservation_bounded {message : Message} {operation : Operation} {request : Nat}
    {allocation : Allocation} (reserves : operation.reservation message = some (request, allocation)) :
    request < 2 ^ 64 := by
  cases operation with
  | reserve length bounded given =>
      cases reserves
      exact bounded
  | encode value given =>
      cases reserves
      exact Nat.mod_lt _ (by decide)
  | decode size => contradiction
  | addAttachment attachment => contradiction

private theorem append_keeps {message next : Message} {bytes : List UInt8}
    (appended : message.append bytes = some next) :
    next.attachments = message.attachments ∧ next.bufferLength = message.bufferLength := by
  unfold append at appended
  split at appended
  · cases appended
    exact ⟨rfl, rfl⟩
  · contradiction

private theorem decode_keeps {message next : Message} {size : ObjectSize}
    {bytes : Option (List UInt8)} (returned : message.decode size = some (bytes, next)) :
    next.attachments = message.attachments ∧ next.bufferLength = message.bufferLength := by
  unfold decode at returned
  split at returned
  · cases returned
    exact ⟨rfl, rfl⟩
  · split at returned
    · cases returned
      exact ⟨rfl, rfl⟩
    · contradiction

/-- What an operation does to the attachments and the capacity is what its reservation
does, or it makes none and keeps the capacity. -/
theorem perform_cases {message next : Message} {operation : Operation}
    (performed : message.perform operation = some next) :
    (∃ request allocation success reserved,
        operation.reservation message = some (request, allocation) ∧
        message.reserve request allocation = some (success, reserved) ∧
        operation.attaches = false ∧ next.attachments = reserved.attachments ∧
        next.bufferLength = reserved.bufferLength) ∨
      (operation.reservation message = none ∧ next.bufferLength = message.bufferLength ∧
        next.attachments.length =
          message.attachments.length + if operation.attaches then 1 else 0) := by
  cases operation with
  | reserve length bounded allocation =>
      obtain ⟨⟨success, reserved⟩, returned, same⟩ := Option.map_eq_some_iff.mp performed
      subst same
      exact Or.inl ⟨length, allocation, success, reserved, rfl, returned, rfl, rfl, rfl⟩
  | encode value allocation =>
      obtain ⟨⟨success, written⟩, returned, same⟩ := Option.map_eq_some_iff.mp performed
      subst same
      obtain ⟨reserved, granted, result⟩ := encode_reserves returned
      refine Or.inl ⟨_, allocation, success, reserved, rfl, granted, rfl, ?_⟩
      rcases result with ⟨_, same⟩ | ⟨_, appended⟩
      · rw [same]
        exact ⟨rfl, rfl⟩
      · exact append_keeps appended
  | decode size =>
      obtain ⟨⟨bytes, read⟩, returned, same⟩ := Option.map_eq_some_iff.mp performed
      subst same
      obtain ⟨attachments, length⟩ := decode_keeps returned
      exact Or.inr ⟨rfl, length, congrArg List.length attachments⟩
  | addAttachment attachment =>
      simp only [perform, addAttachment] at performed
      split at performed
      · cases performed
        exact Or.inr ⟨rfl, rfl, List.length_append⟩
      · contradiction

/-! ### Attachments -/

/-- Only `addAttachment` adds an attachment, one for each call. -/
theorem perform_attachments {message next : Message} {operation : Operation}
    (performed : message.perform operation = some next) :
    next.attachments.length =
      message.attachments.length + if operation.attaches then 1 else 0 := by
  rcases perform_cases performed with
    ⟨request, allocation, success, reserved, _, returned, plain, attachments, _⟩ | ⟨_, _, added⟩
  · rw [attachments, plain]
    rcases reserve_cases returned with ⟨_, same⟩ | ⟨_, grown⟩
    · rw [same]
      rfl
    · rw [grown.attachments]
      rfl
  · exact added

theorem run_attachments {message final : Message} {operations : List Operation}
    (performed : run perform message operations = some final) :
    final.attachments.length =
      message.attachments.length + operations.countP Operation.attaches := by
  induction operations generalizing message with
  | nil =>
      cases performed
      rfl
  | cons operation rest ih =>
      obtain ⟨next, enabled, remaining⟩ := run_cons_some performed
      rw [ih remaining, perform_attachments enabled, List.countP_cons]
      omega

/-! ### Capacity -/

/-- The request does not fit into the block, and the allocator yields another one. -/
def Obtains (message : Message) (request : Nat) (allocation : Allocation) : Prop :=
  message.bufferLength < request ∧ allocation.isSome = true

/-- The assertions of `resizeBuffer` never let a block shrink. -/
theorem resizeBuffer_not_smaller {message next : Message} {size : Nat} {allocation : Allocation}
    {success : Bool} (returned : message.resizeBuffer size allocation = some (success, next)) :
    message.bufferLength ≤ size := by
  rcases resizeBuffer_allowed returned with null | grows
  · rw [bufferLength_of_null null]
    exact Nat.zero_le size
  · exact Nat.le_of_lt grows

/-- A reservation that returns leaves the computed capacity, or the one there was. -/
theorem reserve_capacity {message next : Message} {length : Nat} {allocation : Allocation}
    {success : Bool} (returned : message.reserve length allocation = some (success, next)) :
    (message.Obtains length allocation ∧ message.bufferLength ≤ next.bufferLength ∧
        next.bufferLength = Message_NextPOTSize length) ∨
      (¬ message.Obtains length allocation ∧ next.bufferLength = message.bufferLength) := by
  unfold reserve at returned
  split at returned
  · rename_i present
    cases returned
    refine Or.inr ⟨?_, rfl⟩
    intro obtains
    have absent := obtains.1
    omega
  · rename_i absent
    have larger := resizeBuffer_not_smaller returned
    rcases resizeBuffer_cases returned with ⟨_, failed, same⟩ | ⟨_, given, _, size⟩
    · refine Or.inr ⟨?_, by rw [same]⟩
      intro obtains
      have granted := obtains.2
      rw [failed] at granted
      contradiction
    · rw [← size] at larger
      exact Or.inl ⟨⟨by omega, given⟩, larger, size⟩

/-- No operation changes the capacity except through its reservation. -/
theorem perform_capacity {message next : Message} {operation : Operation}
    (performed : message.perform operation = some next) :
    (∃ request allocation, operation.reservation message = some (request, allocation) ∧
        message.Obtains request allocation ∧ message.bufferLength ≤ next.bufferLength ∧
        next.bufferLength = Message_NextPOTSize request) ∨
      ((∀ request allocation, operation.reservation message = some (request, allocation) →
          ¬ message.Obtains request allocation) ∧
        next.bufferLength = message.bufferLength) := by
  rcases perform_cases performed with
    ⟨request, allocation, success, reserved, reserves, returned, _, _, length⟩ |
      ⟨unreserved, length, _⟩
  · rw [length]
    rcases reserve_capacity returned with ⟨obtains, larger, size⟩ | ⟨fails, unchanged⟩
    · exact Or.inl ⟨request, allocation, reserves, obtains, larger, size⟩
    · refine Or.inr ⟨?_, unchanged⟩
      intro other given again
      rw [reserves] at again
      cases again
      exact fails
  · refine Or.inr ⟨?_, length⟩
    intro request allocation reserves
    rw [unreserved] at reserves
    contradiction

end Message

end CoreLib
