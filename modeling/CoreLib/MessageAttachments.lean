/-
How many attachments a message can carry to its receiver.

Three places have to agree on one limit: the assertion of `addAttachment`, the length
of the control data that `WriteMessage` builds, and the size of the control buffer that
`ReadMessages` offers.  The last two agree.  The assertion compares the number of
attachments before the new one with `<=`, so it lets one attachment too many pass.
-/

import CoreLib.MessageOperations
import CoreLib.Socket

set_option autoImplicit false

namespace CoreLib

open Foundation

namespace Message

/-! ### One limit in three places -/

theorem CMSG_SPACE_le_iff (count : Nat) :
    CMSG_SPACE (ControlBufferItemSize * count) ≤ MaxControlBufferSize ↔
      count ≤ MaxControlBufferItemCount := by
  simp only [CMSG_SPACE, CMSG_ALIGN, cmsghdrSize, MaxControlBufferSize, ControlBufferItemSize,
    MaxControlBufferItemCount]
  omega

/-- `msg_controllen` leaves out the padding behind the last descriptor. -/
theorem control_length_le (message : Message) :
    (Socket.WriteMessage.control message).length ≤
      CMSG_SPACE (ControlBufferItemSize * message.attachments.length) := by
  unfold Socket.WriteMessage.control Control.written
  split
  · exact Nat.zero_le _
  · rw [Control.rightsItem, List.length_append, Control.header_length, writeFields_length,
      List.length_map, List.length_map]
    simp only [CMSG_SPACE, CMSG_ALIGN, cmsghdrSize, ControlBufferItemSize]
    omega

/-- The kernel sets MSG_CTRUNC exactly when the attachments are more than the limit. -/
theorem copyOut_truncated_iff {message : Message} {table : DescriptorTable}
    {packet : Socket.Packet} {descriptors : List Descriptor} {nullHeader : Control.NullHeader}
    (few : message.attachments.length < 2 ^ 32)
    (enqueued : Socket.Packet.ofMessage table message = some packet)
    (installed : descriptors.length = packet.files.length) :
    (packet.copyOut nullHeader descriptors).truncated = true ↔
      MaxControlBufferItemCount < message.attachments.length := by
  have files : packet.files.length = message.attachments.length := by
    have parcels := congrArg (fun parcel => parcel.2.length) (Socket.ofMessage_parcel few enqueued)
    rw [Socket.Packet.parcel, Socket.parcel, List.length_map, List.length_map] at parcels
    exact parcels
  have capacity : Socket.Packet.controlCapacity = MaxControlBufferItemCount := by decide
  rw [Socket.Packet.copyOut, decide_eq_true_iff, capacity, installed, files]

/-- The message can be written without outgrowing the control buffer of its reader. -/
structure FitsReceiver (message : Message) : Prop where
  count : message.attachments.length ≤ MaxControlBufferItemCount
  space : CMSG_SPACE (ControlBufferItemSize * message.attachments.length) ≤ MaxControlBufferSize
  control : (Socket.WriteMessage.control message).length ≤ MaxControlBufferSize
  untruncated : ∀ (table : DescriptorTable) (packet : Socket.Packet)
    (descriptors : List Descriptor) (nullHeader : Control.NullHeader),
      Socket.Packet.ofMessage table message = some packet →
      descriptors.length = packet.files.length →
      (packet.copyOut nullHeader descriptors).truncated = false

theorem fitsReceiver_iff (message : Message) :
    FitsReceiver message ↔ message.attachments.length ≤ MaxControlBufferItemCount := by
  constructor
  · exact FitsReceiver.count
  · intro count
    have space := (CMSG_SPACE_le_iff message.attachments.length).mpr count
    have few : message.attachments.length < 2 ^ 32 := Nat.lt_of_le_of_lt count (by decide)
    refine ⟨count, space, message.control_length_le.trans space, ?_⟩
    intro table packet descriptors nullHeader enqueued installed
    rw [← Bool.not_eq_true, copyOut_truncated_iff few enqueued installed]
    exact Nat.not_lt.mpr count

/-! ### Every run -/

/-- Calls that attach no more than what is left below the limit never exceed it. -/
theorem always_fitsReceiver {message : Message} {operations : List Operation}
    (within : message.attachments.length + operations.countP Operation.attaches ≤
      MaxControlBufferItemCount) : Always perform FitsReceiver message operations := by
  induction operations generalizing message with
  | nil => exact (fitsReceiver_iff message).mpr within
  | cons operation rest ih =>
      rw [List.countP_cons] at within
      refine ⟨(fitsReceiver_iff message).mpr (by omega), ?_⟩
      intro next enabled
      have added := perform_attachments enabled
      apply ih
      omega

theorem attachments_fit_iff {message final : Message} (fresh : Fresh message)
    {operations : List Operation} (performed : run perform message operations = some final) :
    Always perform FitsReceiver message operations ↔
      operations.countP Operation.attaches ≤ MaxControlBufferItemCount := by
  constructor
  · intro always
    have count := (always.final performed).count
    rw [run_attachments performed, fresh.attachments, List.length_nil, Nat.zero_add] at count
    exact count
  · intro count
    apply always_fitsReceiver
    rw [fresh.attachments, List.length_nil, Nat.zero_add]
    exact count

def everyOpen : DescriptorTable := fun _ => some 0

def standardInput : Attachment :=
  { handle := 0
    lower := by omega
    upper := by omega }

def attachCalls (count : Nat) : List Operation :=
  List.replicate count (.addAttachment standardInput)

def attached (count : Nat) : Message :=
  { Message.empty with
    attachments := List.replicate count standardInput
    blockLength := rfl }

theorem attachments_fit_iff_sample :
    Fresh .empty ∧ run perform .empty (attachCalls 8) = some (attached 8) ∧
      (Always perform FitsReceiver .empty (attachCalls 8) ↔
        (attachCalls 8).countP Operation.attaches ≤ MaxControlBufferItemCount) := by
  have fresh : Fresh .empty := .created 0 none .empty rfl
  have performed : run perform .empty (attachCalls 8) = some (attached 8) := rfl
  exact ⟨fresh, performed, attachments_fit_iff fresh performed⟩

/-- The ninth call finds eight attachments, passes the assertion and adds one more. -/
theorem ninth_attachment_passes :
    Fresh .empty ∧ run perform .empty (attachCalls 9) = some (attached 9) ∧
      (attached 9).attachments.length = 9 ∧
      MaxControlBufferSize < CMSG_SPACE (ControlBufferItemSize * 9) ∧
      (∃ packet, Socket.Packet.ofMessage everyOpen (attached 9) = some packet ∧
        ∀ (descriptors : List Descriptor) (nullHeader : Control.NullHeader),
          descriptors.length = packet.files.length →
          (packet.copyOut nullHeader descriptors).truncated = true) ∧
      ¬ Always perform FitsReceiver .empty (attachCalls 9) := by
  have performed : run perform .empty (attachCalls 9) = some (attached 9) := rfl
  have few : (attached 9).attachments.length < 2 ^ 32 := by decide
  have opened : ∀ attachment ∈ (attached 9).attachments,
      (everyOpen attachment.handle).isSome = true := fun _ _ => rfl
  obtain ⟨packet, enqueued, _, _⟩ := Socket.ofMessage_of_open few opened
  refine ⟨.created 0 none .empty rfl, performed, rfl, by decide, ⟨packet, enqueued, ?_⟩, ?_⟩
  · intro descriptors nullHeader installed
    exact (copyOut_truncated_iff few enqueued installed).mpr (by decide)
  · intro always
    exact absurd (always.final performed).count (by decide)

end Message

end CoreLib
