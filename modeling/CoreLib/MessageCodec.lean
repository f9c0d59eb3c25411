/-
Encoding and decoding over whole sequences of values.

A message is an append-only log of bytes with a read cursor.  `Grown` says what a
successful `reserve` may change: the block gets longer and keeps its old bytes as
a prefix.  Each operation has one specification lemma; the sequence lemmas follow
by induction on the list of calls and never open the operations again.
-/

import CoreLib.Message

set_option autoImplicit false

namespace CoreLib

open Foundation

namespace Message

/-! ### Capacity -/

private theorem smear_cascade (value : Nat) :
    smear [1, 2, 4, 8, 16] value =
      smearStage (smearStage (smearStage (smearStage (smearStage value 1) 2) 4) 8) 16 := rfl

theorem Message_NextPOTSize_eq_smear (length : Nat) :
    Message_NextPOTSize length =
      (smear [1, 2, 4, 8, 16] ((length + (2 ^ 64 - 1)) % 2 ^ 64) + 1) % 2 ^ 64 := by
  rw [smear_cascade]
  delta Message_NextPOTSize smearStage
  dsimp only

theorem pred_wraps {length : Nat} (positive : 0 < length) (bounded : length < 2 ^ 64) :
    (length + (2 ^ 64 - 1)) % 2 ^ 64 = length - 1 := by
  have shifted : length + (2 ^ 64 - 1) = (length - 1) + 2 ^ 64 := by omega
  rw [shifted, Nat.add_mod_right, Nat.mod_eq_of_lt (by omega)]

/-- In the lower half of the range the arithmetic does not wrap. -/
theorem Message_NextPOTSize_eq {length : Nat} (positive : 0 < length) (bounded : length ≤ 2 ^ 63) :
    Message_NextPOTSize length = smear [1, 2, 4, 8, 16] (length - 1) + 1 := by
  have upper : smear [1, 2, 4, 8, 16] (length - 1) < 2 ^ 63 := smear_lt _ (by omega)
  rw [Message_NextPOTSize_eq_smear, pred_wraps positive (by omega), Nat.mod_eq_of_lt (by omega)]

theorem le_Message_NextPOTSize {length : Nat} (positive : 0 < length)
    (bounded : length ≤ 2 ^ 63) : length ≤ Message_NextPOTSize length := by
  have lower := le_smear [1, 2, 4, 8, 16] (length - 1)
  rw [Message_NextPOTSize_eq positive bounded]
  omega

theorem block_length (message : Message) : message.block.length = message.bufferLength :=
  message.blockLength

theorem bufferLength_of_null {message : Message} (null : message.buffer = none) :
    message.bufferLength = 0 := by
  have length := message.blockLength
  rw [null] at length
  exact length.symm

theorem contents_length (message : Message) : message.contents.length = message.dataLength := by
  have within := message.dataWithin
  simp only [contents, List.length_take, block_length]
  omega

theorem contents_ne_nil (message : Message) (positive : 0 < message.size) :
    message.contents ≠ [] := by
  have length := message.contents_length
  intro empty
  rw [empty, List.length_nil] at length
  rw [size, ← length] at positive
  contradiction

/-! ### Growth -/

/-- What a successful `reserve` leaves alone. -/
structure Grown (before after : Message) : Prop where
  dataLength : after.dataLength = before.dataLength
  sizeRead : after.sizeRead = before.sizeRead
  attachments : after.attachments = before.attachments
  block : before.block <+: after.block

theorem Grown.refl (message : Message) : Grown message message :=
  ⟨rfl, rfl, rfl, List.prefix_refl _⟩

theorem Grown.contents {before after : Message} (grown : Grown before after) :
    after.contents = before.contents := by
  obtain ⟨slack, extended⟩ := grown.block
  have within : before.dataLength ≤ before.block.length := by
    rw [block_length]
    exact before.dataWithin
  unfold Message.contents
  rw [grown.dataLength, ← extended, List.take_append_of_le_length within]

/-- Every outcome of `resizeBuffer`: the allocator failed and nothing changed, or the block
has exactly the requested size and starts with the old one. -/
theorem resizeBuffer_cases {message next : Message} {size : Nat} {allocation : Allocation}
    {success : Bool} (returned : message.resizeBuffer size allocation = some (success, next)) :
    (success = false ∧ allocation = none ∧ next = message) ∨
      (success = true ∧ allocation.isSome = true ∧ Grown message next ∧
        next.bufferLength = size) := by
  unfold resizeBuffer at returned
  split at returned
  · rename_i null
    split at returned
    · cases allocation with
      | none =>
          cases returned
          exact Or.inl ⟨rfl, rfl, rfl⟩
      | some fill =>
          cases returned
          refine Or.inr ⟨rfl, rfl, ⟨rfl, rfl, rfl, ?_⟩, rfl⟩
          simp only [Message.block, null, Option.getD_none]
          exact List.nil_prefix
    · cases returned
  · rename_i old held
    split at returned
    · cases allocation with
      | none =>
          cases returned
          exact Or.inl ⟨rfl, rfl, rfl⟩
      | some fill =>
          cases returned
          refine Or.inr ⟨rfl, rfl, ⟨rfl, rfl, rfl, ?_⟩, rfl⟩
          simp only [Message.block, held, Option.getD_some]
          exact List.prefix_append _ _
    · cases returned

/-- `resizeBuffer` passes its assertions when there is no block yet or when the
new size is larger than the old one. -/
theorem resizeBuffer_defined (message : Message) {size : Nat} (allocation : Allocation)
    (allowed : message.buffer = none ∨ message.bufferLength < size) :
    ∃ success next, message.resizeBuffer size allocation = some (success, next) := by
  unfold resizeBuffer
  split
  · rename_i null
    rw [if_pos (bufferLength_of_null null)]
    cases allocation with
    | none => exact ⟨_, _, rfl⟩
    | some fill => exact ⟨_, _, rfl⟩
  · rename_i old held
    have grows : message.bufferLength < size := by
      rcases allowed with null | grows
      · rw [held] at null
        contradiction
      · exact grows
    rw [dif_pos grows]
    cases allocation with
    | none => exact ⟨_, _, rfl⟩
    | some fill => exact ⟨_, _, rfl⟩

theorem resizeBuffer_allowed {message next : Message} {size : Nat} {allocation : Allocation}
    {success : Bool} (returned : message.resizeBuffer size allocation = some (success, next)) :
    message.buffer = none ∨ message.bufferLength < size := by
  unfold resizeBuffer at returned
  split at returned
  · rename_i null
    exact Or.inl null
  · split at returned
    · rename_i grows
      exact Or.inr grows
    · contradiction

/-- A request of at most 2^63 bytes is refused without any change, or granted with
room for all of it. -/
theorem reserve_spec (message : Message) {length : Nat} (allocation : Allocation)
    (bounded : length ≤ 2 ^ 63) :
    ∃ success next, message.reserve length allocation = some (success, next) ∧
      (success = false → next = message) ∧
      (success = true → Grown message next ∧ length ≤ next.bufferLength) := by
  unfold reserve
  by_cases present : length = 0 ∨ length ≤ message.bufferLength
  · rw [if_pos present]
    refine ⟨true, message, rfl, nofun, fun _ => ⟨Grown.refl message, ?_⟩⟩
    omega
  · rw [if_neg present]
    have capacity : length ≤ Message_NextPOTSize length :=
      le_Message_NextPOTSize (by omega) bounded
    have grows : message.bufferLength < Message_NextPOTSize length := by omega
    obtain ⟨success, next, returned⟩ := message.resizeBuffer_defined allocation (Or.inr grows)
    refine ⟨success, next, returned, ?_, ?_⟩
    · intro failed
      rcases resizeBuffer_cases returned with ⟨_, _, same⟩ | ⟨granted, _⟩
      · exact same
      · rw [failed] at granted
        contradiction
    · intro granted
      rcases resizeBuffer_cases returned with ⟨failed, _⟩ | ⟨_, _, grown, size⟩
      · rw [granted] at failed
        contradiction
      · exact ⟨grown, by rw [size]; exact capacity⟩

theorem create_spec (reservedLength : Nat) (allocation : Allocation) :
    ∃ message, create reservedLength allocation = some message ∧
      message.dataLength = 0 ∧ message.sizeRead = 0 ∧ message.attachments = [] := by
  unfold create reserve
  split
  · exact ⟨_, rfl, rfl, rfl, rfl⟩
  · cases allocation with
    | none => exact ⟨_, rfl, rfl, rfl, rfl⟩
    | some fill => exact ⟨_, rfl, rfl, rfl, rfl⟩

theorem ofBuffer_spec (bytes : List UInt8) (fill : Nat → UInt8) :
    ∃ message, ofBuffer bytes (some fill) = some message ∧ message.block = bytes ∧
      message.bufferLength = bytes.length ∧ message.sizeRead = 0 ∧
      message.contents = bytes ∧ message.attachments = [] :=
  ⟨_, rfl, rfl, rfl, rfl, List.take_length, rfl⟩

/-! ### One call -/

theorem append_spec {message : Message} {bytes : List UInt8}
    (room : message.dataLength + bytes.length ≤ message.bufferLength) :
    ∃ next, message.append bytes = some next ∧
      next.dataLength = message.dataLength + bytes.length ∧
      next.contents = message.contents ++ bytes ∧ next.sizeRead = message.sizeRead := by
  unfold append
  rw [dif_pos room]
  refine ⟨_, rfl, rfl, ?_, rfl⟩
  have written : (message.contents ++ bytes).length = message.dataLength + bytes.length := by
    rw [List.length_append, contents_length]
  exact List.take_left' written

/-- `encode` appends the whole representation or changes nothing. -/
theorem encode_spec (message : Message) (value : Value) (allocation : Allocation)
    (bounded : message.dataLength + value.bytes.length ≤ 2 ^ 63) :
    ∃ success next, message.encode value allocation = some (success, next) ∧
      (success = false → next = message) ∧
      (success = true → next.dataLength = message.dataLength + value.bytes.length ∧
        next.contents = message.contents ++ value.bytes ∧
        next.sizeRead = message.sizeRead) := by
  have exactLength : (message.dataLength + value.bytes.length) % 2 ^ 64 =
      message.dataLength + value.bytes.length := Nat.mod_eq_of_lt (by omega)
  obtain ⟨success, reserved, returned, refused, granted⟩ :=
    message.reserve_spec allocation bounded
  unfold encode
  rw [exactLength, returned]
  cases success with
  | false => exact ⟨false, reserved, rfl, refused, nofun⟩
  | true =>
      obtain ⟨grown, room⟩ := granted rfl
      rw [← grown.dataLength] at room
      obtain ⟨written, appended, length, contents, read⟩ := append_spec room
      refine ⟨true, written, by simp only [appended, Option.map_some], nofun, fun _ => ?_⟩
      rw [length, contents, read, grown.contents, grown.dataLength, grown.sizeRead]
      exact ⟨rfl, rfl, rfl⟩

/-- `decode` copies the next bytes of the block, or returns false and changes
nothing. -/
theorem decode_spec (message : Message) (size : ObjectSize)
    (bounded : message.bufferLength ≤ 2 ^ 63) :
    (message.sizeRead + size.bytes ≤ message.bufferLength →
      ∃ next, message.decode size =
          some (some ((message.block.drop message.sizeRead).take size.bytes), next) ∧
        next.block = message.block ∧ next.bufferLength = message.bufferLength ∧
        next.sizeRead = message.sizeRead + size.bytes) ∧
    (message.bufferLength < message.sizeRead + size.bytes →
      message.decode size = some (none, message)) := by
  have read := message.readWithin
  have sizeBound := size.bounded
  have exactSum : (size.bytes + message.sizeRead) % 2 ^ 64 = message.sizeRead + size.bytes := by
    rw [Nat.mod_eq_of_lt (by omega), Nat.add_comm]
  unfold decode
  rw [exactSum]
  constructor
  · intro fits
    rw [if_neg (Nat.not_lt.mpr fits), dif_pos fits]
    exact ⟨_, rfl, rfl, rfl, rfl⟩
  · intro exceeds
    rw [if_pos exceeds]

/-! ### Sequences of calls -/

structure EncodeCall where
  value : Value
  allocation : Allocation

def encodeAll (message : Message) : List EncodeCall → Option (List Bool × Message)
  | [] => some ([], message)
  | call :: rest =>
      match message.encode call.value call.allocation with
      | none => none
      | some (success, next) =>
          (next.encodeAll rest).map fun (results, final) => (success :: results, final)

def decodeAll (message : Message) :
    List ObjectSize → Option (List (Option (List UInt8)) × Message)
  | [] => some ([], message)
  | size :: rest =>
      match message.decode size with
      | none => none
      | some (bytes, next) =>
          (next.decodeAll rest).map fun (results, final) => (bytes :: results, final)

def accepted : List EncodeCall → List Bool → List Value
  | call :: calls, success :: results =>
      if success then call.value :: accepted calls results else accepted calls results
  | _, _ => []

def representation (values : List Value) : List UInt8 := (values.map Value.bytes).flatten

def totalSize (values : List Value) : Nat := (values.map fun value => value.bytes.length).sum

theorem representation_length (values : List Value) :
    (representation values).length = totalSize values := by
  rw [representation, List.length_flatten, List.map_map]
  rfl

theorem representation_cons (value : Value) (rest : List Value) :
    representation (value :: rest) = value.bytes ++ representation rest := rfl

theorem totalSize_cons (value : Value) (rest : List Value) :
    totalSize (value :: rest) = value.bytes.length + totalSize rest := rfl

theorem totalSize_accepted_le (calls : List EncodeCall) (results : List Bool) :
    totalSize (accepted calls results) ≤ totalSize (calls.map EncodeCall.value) := by
  induction calls generalizing results with
  | nil => exact Nat.zero_le _
  | cons call rest ih =>
      rw [List.map_cons, totalSize_cons]
      cases results with
      | nil => exact Nat.zero_le _
      | cons success later =>
          have tail := ih later
          cases success with
          | false =>
              change totalSize (accepted rest later) ≤ _
              omega
          | true =>
              change totalSize (call.value :: accepted rest later) ≤ _
              rw [totalSize_cons]
              omega

/-- No sequence of encodes of bounded total size fails an assertion, and the log
ends with the accepted representations in order. -/
theorem encodeAll_spec (calls : List EncodeCall) (message : Message)
    (bounded : message.dataLength + totalSize (calls.map EncodeCall.value) < 2 ^ 63) :
    ∃ results final, message.encodeAll calls = some (results, final) ∧
      results.length = calls.length ∧
      final.contents = message.contents ++ representation (accepted calls results) := by
  induction calls generalizing message with
  | nil => exact ⟨[], message, rfl, rfl, (List.append_nil _).symm⟩
  | cons call rest ih =>
      rw [List.map_cons, totalSize_cons] at bounded
      obtain ⟨success, next, encoded, refused, appended⟩ :=
        message.encode_spec call.value call.allocation (by omega)
      have nextBound : next.dataLength + totalSize (rest.map EncodeCall.value) < 2 ^ 63 := by
        cases success with
        | false =>
            rw [refused rfl]
            omega
        | true =>
            rw [(appended rfl).1]
            omega
      obtain ⟨results, final, remaining, length, contents⟩ := ih next nextBound
      refine ⟨success :: results, final, ?_, ?_, ?_⟩
      · simp only [encodeAll, encoded, remaining, Option.map_some]
      · rw [List.length_cons, List.length_cons, length]
      · cases success with
        | false =>
            rw [contents, refused rfl]
            rfl
        | true =>
            rw [contents, (appended rfl).2.1, List.append_assoc]
            rfl

/-- The part of a sequence of encodes before any point runs to its end, and the
call at that point changes nothing if it fails. -/
theorem encodeAll_failure_atomic (before : List EncodeCall) (call : EncodeCall)
    (after : List EncodeCall) (message : Message)
    (bounded : message.dataLength +
      totalSize ((before ++ call :: after).map EncodeCall.value) < 2 ^ 63) :
    ∃ results reached success next, message.encodeAll before = some (results, reached) ∧
      reached.encode call.value call.allocation = some (success, next) ∧
      (success = false → next = reached) := by
  induction before generalizing message with
  | nil =>
      rw [List.nil_append, List.map_cons, totalSize_cons] at bounded
      obtain ⟨success, next, encoded, refused, _⟩ :=
        message.encode_spec call.value call.allocation (by omega)
      exact ⟨[], message, success, next, rfl, encoded, refused⟩
  | cons earlier rest ih =>
      rw [List.cons_append, List.map_cons, totalSize_cons] at bounded
      obtain ⟨success, next, encoded, refused, appended⟩ :=
        message.encode_spec earlier.value earlier.allocation (by omega)
      have nextBound : next.dataLength +
          totalSize ((rest ++ call :: after).map EncodeCall.value) < 2 ^ 63 := by
        cases success with
        | false =>
            rw [refused rfl]
            omega
        | true =>
            rw [(appended rfl).1]
            omega
      obtain ⟨results, reached, last, final, remaining, encodedLast, atomic⟩ := ih next nextBound
      refine ⟨success :: results, reached, last, final, ?_, encodedLast, atomic⟩
      simp only [encodeAll, encoded, remaining, Option.map_some]

/-- Decoding from the start of the unread values returns them one by one. -/
theorem decodeAll_spec (values : List Value) (message : Message) (consumed : List UInt8)
    (bounded : message.bufferLength ≤ 2 ^ 63) (cursor : message.sizeRead = consumed.length)
    (layout : message.block = consumed ++ representation values) :
    ∃ final, message.decodeAll (values.map Value.size) =
        some (values.map fun value => some value.bytes, final) ∧
      final.bufferLength = message.bufferLength ∧ final.sizeRead = final.bufferLength := by
  have length : message.bufferLength = consumed.length + totalSize values := by
    rw [← block_length, layout, List.length_append, representation_length]
  induction values generalizing message consumed with
  | nil =>
      refine ⟨message, rfl, rfl, ?_⟩
      rw [cursor, length]
      rfl
  | cons value rest ih =>
      rw [totalSize_cons] at length
      have fits : message.sizeRead + value.size.bytes ≤ message.bufferLength := by
        simp only [Value.size]
        omega
      obtain ⟨next, decoded, block, capacity, read⟩ :=
        (message.decode_spec value.size bounded).1 fits
      have slice : (message.block.drop message.sizeRead).take value.size.bytes =
          value.bytes := by
        rw [layout, cursor, List.drop_left, representation_cons]
        exact List.take_left
      obtain ⟨final, remaining, sameCapacity, drained⟩ := ih next (consumed ++ value.bytes)
        (by rw [capacity]; exact bounded)
        (by rw [read, cursor, List.length_append]; rfl)
        (by rw [block, layout, representation_cons, List.append_assoc])
        (by rw [capacity, length, List.length_append]; omega)
      refine ⟨final, ?_, by rw [sameCapacity, capacity], drained⟩
      simp only [List.map_cons, decodeAll, decoded, slice, remaining, Option.map_some]

theorem decode_drained {message : Message} (bounded : message.bufferLength ≤ 2 ^ 63)
    (drained : message.sizeRead = message.bufferLength) (size : ObjectSize) :
    message.decode size = some (none, message) := by
  apply (message.decode_spec size bounded).2
  have positive := size.positive
  omega

/-! ### Round trip -/

/-- Whatever was encoded with success comes back in order from a message built on
the encoded bytes, and nothing else does. -/
theorem decode_undoes_encode (reservedLength : Nat) (reservation : Allocation)
    (calls : List EncodeCall) (copyFill : Nat → UInt8)
    (bounded : totalSize (calls.map EncodeCall.value) < 2 ^ 63) :
    ∃ initial results final, create reservedLength reservation = some initial ∧
      initial.encodeAll calls = some (results, final) ∧
      results.length = calls.length ∧
      (∀ before call after, calls = before ++ call :: after →
        ∃ earlier reached success next, initial.encodeAll before = some (earlier, reached) ∧
          reached.encode call.value call.allocation = some (success, next) ∧
          (success = false → next = reached)) ∧
      final.size = totalSize (accepted calls results) ∧
      final.contents = representation (accepted calls results) ∧
      ∃ copy drained, ofBuffer final.contents (some copyFill) = some copy ∧
        copy.decodeAll ((accepted calls results).map Value.size) =
          some ((accepted calls results).map fun value => some value.bytes, drained) ∧
        ∀ size, drained.decode size = some (none, drained) := by
  obtain ⟨initial, created, empty, _, _⟩ := create_spec reservedLength reservation
  have start : initial.dataLength + totalSize (calls.map EncodeCall.value) < 2 ^ 63 := by
    rw [empty, Nat.zero_add]
    exact bounded
  obtain ⟨results, final, encoded, length, log⟩ := encodeAll_spec calls initial start
  have noBytes : initial.contents = [] := by
    rw [contents, empty, List.take_zero]
  rw [noBytes, List.nil_append] at log
  have size : final.size = totalSize (accepted calls results) := by
    rw [Message.size, ← contents_length, log, representation_length]
  refine ⟨initial, results, final, created, encoded, length, ?_, size, log, ?_⟩
  · intro before call after split
    rw [split] at start
    exact encodeAll_failure_atomic before call after initial start
  · have small : final.contents.length ≤ 2 ^ 63 := by
      have fewer := totalSize_accepted_le calls results
      rw [log, representation_length]
      omega
    have layout : final.contents = [] ++ representation (accepted calls results) := log
    obtain ⟨copy, copied, copyBlock, copyCapacity, copyCursor, _, _⟩ :=
      ofBuffer_spec final.contents copyFill
    obtain ⟨drained, decoded, capacity, read⟩ :=
      decodeAll_spec (accepted calls results) copy [] (by rw [copyCapacity]; exact small)
        copyCursor (by rw [copyBlock]; exact layout)
    have drainedBound : drained.bufferLength ≤ 2 ^ 63 := by
      rw [capacity, copyCapacity]
      exact small
    exact ⟨copy, drained, copied, decoded, decode_drained drainedBound read⟩

def sampleCalls : List EncodeCall :=
  [{ value :=
       { bytes := [1, 2]
         positive := by decide
         bounded := by decide }
     allocation := none },
   { value :=
       { bytes := [3, 4, 5]
         positive := by decide
         bounded := by decide }
     allocation := some fun _ => 0 }]

theorem decode_undoes_encode_sample :
    totalSize (sampleCalls.map EncodeCall.value) < 2 ^ 63 ∧
      ∃ initial results final, create 0 none = some initial ∧
        initial.encodeAll sampleCalls = some (results, final) ∧
        final.size = totalSize (accepted sampleCalls results) := by
  have bounded : totalSize (sampleCalls.map EncodeCall.value) < 2 ^ 63 := by decide
  obtain ⟨initial, results, final, created, encoded, _, _, size, _⟩ :=
    decode_undoes_encode 0 none sampleCalls (fun _ => 0) bounded
  exact ⟨bounded, initial, results, final, created, encoded, size⟩

end Message

end CoreLib
