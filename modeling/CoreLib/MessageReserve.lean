/-
What `reserve` promises, over the whole range of size_t.

The requested capacity goes through bit-smearing arithmetic that wraps.  The smearing
reaches 32 positions, so it fills all 64 bits, and the capacity becomes 0, exactly when
the request less one has its top bit set and nowhere 32 consecutive zeros.
-/

import CoreLib.MessageCodec

set_option autoImplicit false

namespace CoreLib

open Foundation

namespace Message

/-! ### The computed capacity -/

/-- One less than the length has its top bit set and no 32 consecutive zero bits. -/
def Overflows (length : Nat) : Prop :=
  ∀ position < 64, ∃ offset < 32, (length - 1).testBit (position + offset) = true

theorem gapless_cascade : Gapless 1 [1, 2, 4, 8, 16] := by
  simp [Gapless]

/-- The five stages spread a set bit over the 31 positions below it. -/
theorem windowed_cascade (value : Nat) : Windowed 32 value (smear [1, 2, 4, 8, 16] value) :=
  (Windowed.refl value).smear gapless_cascade

theorem cascade_full_iff {length : Nat} (positive : 0 < length) (bounded : length < 2 ^ 64) :
    smear [1, 2, 4, 8, 16] (length - 1) = 2 ^ 64 - 1 ↔ Overflows length := by
  have small : smear [1, 2, 4, 8, 16] (length - 1) < 2 ^ 64 := smear_lt _ (by omega)
  rw [eq_two_pow_sub_one_iff small]
  constructor
  · intro full position within
    exact (windowed_cascade _ position).mp (full position within)
  · intro overflows position within
    exact (windowed_cascade _ position).mpr (overflows position within)

theorem Message_NextPOTSize_of_overflows {length : Nat} (positive : 0 < length)
    (bounded : length < 2 ^ 64) (overflows : Overflows length) :
    Message_NextPOTSize length = 0 := by
  rw [Message_NextPOTSize_eq_smear, pred_wraps positive bounded,
    (cascade_full_iff positive bounded).mpr overflows]
  rfl

theorem le_Message_NextPOTSize_of_not_overflows {length : Nat} (positive : 0 < length)
    (bounded : length < 2 ^ 64) (fits : ¬ Overflows length) :
    length ≤ Message_NextPOTSize length := by
  have small : smear [1, 2, 4, 8, 16] (length - 1) < 2 ^ 64 := smear_lt _ (by omega)
  have lower := le_smear [1, 2, 4, 8, 16] (length - 1)
  have room : smear [1, 2, 4, 8, 16] (length - 1) ≠ 2 ^ 64 - 1 := by
    intro full
    exact fits ((cascade_full_iff positive bounded).mp full)
  rw [Message_NextPOTSize_eq_smear, pred_wraps positive bounded, Nat.mod_eq_of_lt (by omega)]
  omega

/-! ### The promise -/

/-- What `reserve` owes its caller for each of its two results. -/
structure Reserved (message : Message) (length : Nat) (success : Bool) (next : Message) :
    Prop where
  capacity : success = true → length ≤ next.bufferLength ∧ next.bufferLength ≤ next.block.length
  cursors : success = true →
    next.dataLength = message.dataLength ∧ next.sizeRead = message.sizeRead
  contents : success = true → next.contents = message.contents
  refused : success = false → next = message

/-- No assertion fails, and the result is as promised. -/
def KeepsPromise (message : Message) (length : Nat) (allocation : Allocation) : Prop :=
  ∃ success next, message.reserve length allocation = some (success, next) ∧
    Reserved message length success next

private theorem Grown.reserved {message next : Message} {length : Nat} (grown : Grown message next)
    (room : length ≤ next.bufferLength) : Reserved message length true next :=
  { capacity := fun _ => ⟨room, Nat.le_of_eq next.block_length.symm⟩
    cursors := fun _ => ⟨grown.dataLength, grown.sizeRead⟩
    contents := fun _ => grown.contents
    refused := nofun }

private theorem reserved_refused (message : Message) (length : Nat) :
    Reserved message length false message :=
  { capacity := nofun
    cursors := nofun
    contents := nofun
    refused := fun _ => rfl }

private theorem resize_keeps_promise (message : Message) {length : Nat} (allocation : Allocation)
    (absent : message.bufferLength < length) (fits : length ≤ Message_NextPOTSize length) :
    KeepsPromise message length allocation := by
  have larger : message.bufferLength < Message_NextPOTSize length := Nat.lt_of_lt_of_le absent fits
  obtain ⟨success, next, returned⟩ := message.resizeBuffer_defined allocation (Or.inr larger)
  refine ⟨success, next, ?_, ?_⟩
  · rw [reserve, if_neg (by omega)]
    exact returned
  · rcases resizeBuffer_cases returned with ⟨failed, _, same⟩ | ⟨granted, _, grown, size⟩
    · subst success next
      exact reserved_refused message length
    · subst success
      exact grown.reserved (by rw [size]; exact fits)

/-- A capacity of 0 fails the assertion of `resizeBuffer` when there is a block, and is
taken for a success when malloc(0) returns one. -/
private theorem zero_capacity (message : Message) {length : Nat} {allocation : Allocation}
    (absent : message.bufferLength < length) (zero : Message_NextPOTSize length = 0)
    (breaks : message.buffer.isSome = true ∨ allocation.isSome = true) :
    ¬ KeepsPromise message length allocation := by
  rintro ⟨success, next, returned, reserved⟩
  rw [reserve, if_neg (by omega), zero] at returned
  rcases resizeBuffer_cases returned with ⟨_, refused, _⟩ | ⟨granted, _, _, size⟩
  · rcases resizeBuffer_allowed returned with null | grows
    · rcases breaks with held | given
      · rw [null] at held
        contradiction
      · rw [refused] at given
        contradiction
    · exact absurd grows (Nat.not_lt_zero _)
  · have room := (reserved.capacity granted).1
    omega

/-- For every request that size_t can hold, `reserve` keeps its promise unless it needs
a capacity whose computation overflows and there is a block or malloc(0) gives one. -/
theorem reserve_keeps_promise_iff (message : Message) {length : Nat} (bounded : length < 2 ^ 64)
    (allocation : Allocation) :
    KeepsPromise message length allocation ↔
      ¬ (message.bufferLength < length ∧ Overflows length ∧
        (message.buffer.isSome = true ∨ allocation.isSome = true)) := by
  constructor
  · rintro kept ⟨absent, overflows, breaks⟩
    have zero := Message_NextPOTSize_of_overflows (by omega) bounded overflows
    exact zero_capacity message absent zero breaks kept
  · intro allowed
    by_cases absent : message.bufferLength < length
    · by_cases overflows : Overflows length
      · have zero := Message_NextPOTSize_of_overflows (by omega) bounded overflows
        have spared : message.buffer.isSome = false ∧ allocation.isSome = false := by
          simpa [absent, overflows] using allowed
        have null : message.buffer = none := Option.not_isSome_iff_eq_none.mp (by simp [spared.1])
        have failed : allocation = none := Option.not_isSome_iff_eq_none.mp (by simp [spared.2])
        refine ⟨false, message, ?_, reserved_refused message length⟩
        rw [reserve, if_neg (by omega), zero, failed]
        unfold resizeBuffer
        split
        · exact if_pos (bufferLength_of_null null)
        · rename_i held
          rw [null] at held
          contradiction
      · exact resize_keeps_promise message allocation absent
          (le_Message_NextPOTSize_of_not_overflows (by omega) bounded overflows)
    · have present : length = 0 ∨ length ≤ message.bufferLength := Or.inr (Nat.le_of_not_lt absent)
      refine ⟨true, message, ?_, (Grown.refl message).reserved (Nat.le_of_not_lt absent)⟩
      rw [reserve, if_pos present]

theorem reserve_keeps_promise_iff_largest :
    KeepsPromise .empty (2 ^ 64 - 1) none ↔
      ¬ (Message.empty.bufferLength < 2 ^ 64 - 1 ∧ Overflows (2 ^ 64 - 1) ∧
        (Message.empty.buffer.isSome = true ∨ (none : Allocation).isSome = true)) :=
  reserve_keeps_promise_iff .empty (by decide) none

/-- The message that `reserve` leaves when malloc(0) has returned a block. -/
def emptyBlock : Message :=
  { Message.empty with
    buffer := some []
    blockLength := rfl }

/-- A fresh message reserves the largest length, and malloc(0) returns a block. -/
theorem largest_reserve_broken :
    create 0 none = some .empty ∧
      Message.empty.reserve (2 ^ 64 - 1) (some fun _ => 0) = some (true, emptyBlock) ∧
      emptyBlock.bufferLength = 0 ∧
      ¬ KeepsPromise .empty (2 ^ 64 - 1) (some fun _ => 0) := by
  have zero : Message_NextPOTSize (2 ^ 64 - 1) = 0 := by decide
  refine ⟨rfl, ?_, rfl, ?_⟩
  · rw [reserve, if_neg (by decide), zero]
    rfl
  · exact zero_capacity .empty (by decide) zero (Or.inr rfl)

end Message

end CoreLib
