/-
Decoding a received buffer as a tiling of its bytes.

A message built on a byte string has no slack, so the read cursor alone decides each
request.  The bytes that were handed out are the data up to the cursor, and encoding
them again rebuilds that part of the string.
-/

import CoreLib.MessageCursors

set_option autoImplicit false

namespace CoreLib

open Foundation

namespace Message

def produced (results : List (Option (List UInt8))) : List UInt8 :=
  (results.filterMap id).flatten

theorem produced_append (first second : List (Option (List UInt8))) :
    produced (first ++ second) = produced first ++ produced second := by
  simp [produced]

/-! ### One request -/

/-- On a message without slack a request is granted exactly when it fits in the
unread bytes. -/
theorem decode_tile (message : Message) (size : ObjectSize)
    (bounded : message.bufferLength < 2 ^ 63) :
    ∃ result next, message.decode size = some (result, next) ∧
      (result.isSome = true ↔ size.bytes ≤ message.bufferLength - message.sizeRead) ∧
      (result = none → next = message) ∧
      (∀ bytes, result = some bytes →
        bytes = (message.block.drop message.sizeRead).take size.bytes ∧
          bytes.length = size.bytes) ∧
      next.block = message.block ∧
      next.sizeRead = message.sizeRead + (produced [result]).length := by
  have read := message.readWithin
  have positive := size.positive
  obtain ⟨granted, refused⟩ := message.decode_spec size (Nat.le_of_lt bounded)
  by_cases fits : message.sizeRead + size.bytes ≤ message.bufferLength
  · obtain ⟨next, decoded, block, _, cursor⟩ := granted fits
    have length : ((message.block.drop message.sizeRead).take size.bytes).length =
        size.bytes := by
      rw [List.length_take, List.length_drop, block_length]
      omega
    refine ⟨_, next, decoded, ?_, nofun, ?_, block, ?_⟩
    · simp only [Option.isSome_some, true_iff]
      omega
    · intro bytes same
      cases same
      exact ⟨rfl, length⟩
    · simp [produced, cursor, length]
  · have decoded := refused (Nat.lt_of_not_le fits)
    refine ⟨none, message, decoded, ?_, fun _ => rfl, nofun, rfl, ?_⟩
    · simp only [Option.isSome_none, Bool.false_eq_true, false_iff]
      omega
    · simp [produced]

/-! ### Every sequence of requests -/

/-- The results are the bytes between the two positions of the read cursor. -/
theorem decodeAll_tiles (bytes : List UInt8) (bounded : bytes.length < 2 ^ 63)
    (requests : List ObjectSize) (message : Message) (holds : message.block = bytes) :
    ∃ results final, message.decodeAll requests = some (results, final) ∧
      results.length = requests.length ∧ final.block = bytes ∧
      final.sizeRead = message.sizeRead + (produced results).length ∧
      produced results = (bytes.drop message.sizeRead).take (produced results).length := by
  induction requests generalizing message with
  | nil => exact ⟨[], message, rfl, rfl, holds, rfl, by simp [produced]⟩
  | cons request rest ih =>
      have capacity : message.bufferLength < 2 ^ 63 := by
        rw [← block_length, holds]
        exact bounded
      obtain ⟨result, next, decoded, _, _, slice, block, cursor⟩ :=
        message.decode_tile request capacity
      obtain ⟨results, final, remaining, count, finalBlock, moved, tiled⟩ :=
        ih next (block.trans holds)
      have split : produced (result :: results) = produced [result] ++ produced results :=
        produced_append [result] results
      have here : produced [result] =
          (bytes.drop message.sizeRead).take (produced [result]).length := by
        cases result with
        | none => simp [produced]
        | some part =>
            obtain ⟨same, length⟩ := slice part rfl
            rw [holds, ← length] at same
            simpa [produced] using same
      refine ⟨result :: results, final, ?_, ?_, finalBlock, ?_, ?_⟩
      · simp only [decodeAll, decoded, remaining, Option.map_some]
      · rw [List.length_cons, List.length_cons, count]
      · rw [moved, cursor, split, List.length_append]
        omega
      · rw [split, List.length_append, List.take_add, ← here, List.drop_drop, ← cursor, ← tiled]

/-- The requests before any point are answered, and the request at that point meets
the message they leave. -/
theorem decodeAll_split (before : List ObjectSize) (request : ObjectSize)
    (after : List ObjectSize) {message final : Message} {results : List (Option (List UInt8))}
    (returned : message.decodeAll (before ++ request :: after) = some (results, final)) :
    ∃ earlier reached result next later, message.decodeAll before = some (earlier, reached) ∧
      reached.decode request = some (result, next) ∧
      next.decodeAll after = some (later, final) ∧ results = earlier ++ result :: later := by
  induction before generalizing message results with
  | nil =>
      rw [List.nil_append, decodeAll] at returned
      split at returned
      · contradiction
      · rename_i result next decoded
        obtain ⟨⟨later, last⟩, remaining, same⟩ := Option.map_eq_some_iff.mp returned
        cases same
        exact ⟨[], message, result, next, later, rfl, decoded, remaining, rfl⟩
  | cons first rest ih =>
      rw [List.cons_append, decodeAll] at returned
      split at returned
      · contradiction
      · rename_i opening second decoded
        obtain ⟨⟨others, last⟩, remaining, same⟩ := Option.map_eq_some_iff.mp returned
        cases same
        obtain ⟨earlier, reached, result, next, later, reachedBy, here, onward, joined⟩ :=
          ih remaining
        refine ⟨opening :: earlier, reached, result, next, later, ?_, here, onward, ?_⟩
        · simp only [decodeAll, decoded, reachedBy, Option.map_some]
        · rw [joined, List.cons_append]

/-! ### Encoding again -/

theorem reserve_granted {message next : Message} {length : Nat} {allocation : Allocation}
    {success : Bool} (granted : allocation.isSome = true)
    (returned : message.reserve length allocation = some (success, next)) : success = true := by
  unfold reserve at returned
  split at returned
  · cases returned
    rfl
  · rcases resizeBuffer_cases returned with ⟨_, failed, _⟩ | ⟨succeeded, _⟩
    · rw [failed] at granted
      contradiction
    · exact succeeded

theorem encode_granted (message : Message) (call : EncodeCall)
    (granted : call.allocation.isSome = true)
    (bounded : message.dataLength + call.value.bytes.length ≤ 2 ^ 63) :
    ∃ next, message.encode call.value call.allocation = some (true, next) ∧
      next.contents = message.contents ++ call.value.bytes ∧
      next.dataLength = message.dataLength + call.value.bytes.length := by
  obtain ⟨success, next, encoded, _, appended⟩ :=
    message.encode_spec call.value call.allocation bounded
  obtain ⟨reserved, returned, _⟩ := encode_reserves encoded
  have succeeded : success = true := reserve_granted granted returned
  subst succeeded
  exact ⟨next, encoded, (appended rfl).2.1, (appended rfl).1⟩

theorem encodeAll_granted (calls : List EncodeCall) (message : Message)
    (granted : ∀ call ∈ calls, call.allocation.isSome = true)
    (bounded : message.dataLength + totalSize (calls.map EncodeCall.value) < 2 ^ 63) :
    ∃ final, message.encodeAll calls = some (calls.map fun _ => true, final) ∧
      final.contents = message.contents ++ representation (calls.map EncodeCall.value) := by
  induction calls generalizing message with
  | nil => exact ⟨message, rfl, (List.append_nil _).symm⟩
  | cons call rest ih =>
      rw [List.map_cons, totalSize_cons] at bounded
      obtain ⟨next, encoded, contents, length⟩ :=
        message.encode_granted call (granted call (List.mem_cons_self ..)) (by omega)
      obtain ⟨final, remaining, log⟩ := ih next
        (fun other member => granted other (List.mem_cons_of_mem _ member))
        (by rw [length]; omega)
      refine ⟨final, ?_, ?_⟩
      · simp only [encodeAll, encoded, remaining, Option.map_some, List.map_cons]
      · rw [log, contents, List.append_assoc]
        rfl

/-- Encoding the produced bytes, cut into values in any way, into an empty message. -/
theorem encodeAll_rebuilds (calls : List EncodeCall) (bytes : List UInt8)
    (granted : ∀ call ∈ calls, call.allocation.isSome = true)
    (values : (calls.map fun call => call.value.bytes).flatten = bytes)
    (bounded : bytes.length < 2 ^ 63) (reservedLength : Nat) (reservation : Allocation) :
    ∃ fresh rebuilt, create reservedLength reservation = some fresh ∧
      fresh.encodeAll calls = some (calls.map fun _ => true, rebuilt) ∧
      rebuilt.contents = bytes := by
  have whole : representation (calls.map EncodeCall.value) = bytes := by
    rw [representation, List.map_map]
    exact values
  obtain ⟨fresh, created, empty, _, _⟩ := create_spec reservedLength reservation
  obtain ⟨rebuilt, encoded, log⟩ := encodeAll_granted calls fresh granted
    (by rw [empty, Nat.zero_add, ← representation_length, whole]; exact bounded)
  refine ⟨fresh, rebuilt, created, encoded, ?_⟩
  rw [log, whole, contents, empty, List.take_zero, List.nil_append]

/-! ### Tiling and its inverse -/

/-- Each request is granted exactly when it fits in what the earlier ones left, a
refused one changes nothing, the granted ones are consecutive slices, and encoding
them in order rebuilds the bytes up to the cursor. -/
theorem decode_tiles_buffer (bytes : List UInt8) (bounded : bytes.length < 2 ^ 63)
    (copyFill : Nat → UInt8) (requests : List ObjectSize) :
    ∃ copy results final, ofBuffer bytes (some copyFill) = some copy ∧
      copy.decodeAll requests = some (results, final) ∧
      results.length = requests.length ∧
      (∀ before request after, requests = before ++ request :: after →
        ∃ earlier reached result next later, copy.decodeAll before = some (earlier, reached) ∧
          reached.decode request = some (result, next) ∧
          results = earlier ++ result :: later ∧ earlier.length = before.length ∧
          (result.isSome = true ↔
            request.bytes ≤ bytes.length - (produced earlier).length) ∧
          (result = none → next = reached) ∧
          (∀ slice, result = some slice → slice.length = request.bytes ∧
            slice = (bytes.drop (produced earlier).length).take request.bytes)) ∧
      produced results = bytes.take final.sizeRead ∧
      ∀ calls : List EncodeCall,
        (calls.map fun call => call.value.bytes) = results.filterMap id →
        (∀ call ∈ calls, call.allocation.isSome = true) →
        ∀ reservedLength reservation, ∃ fresh rebuilt,
          create reservedLength reservation = some fresh ∧
          fresh.encodeAll calls = some (calls.map fun _ => true, rebuilt) ∧
          rebuilt.size = final.sizeRead ∧
          rebuilt.contents = bytes.take final.sizeRead := by
  obtain ⟨copy, copied, block, _, cursor, _, _⟩ := ofBuffer_spec bytes copyFill
  obtain ⟨results, final, decoded, count, finalBlock, moved, tiled⟩ :=
    decodeAll_tiles bytes bounded requests copy block
  rw [cursor, Nat.zero_add] at moved
  rw [cursor, List.drop_zero, ← moved] at tiled
  refine ⟨copy, results, final, copied, decoded, count, ?_, tiled, ?_⟩
  · intro before request after split
    rw [split] at decoded
    obtain ⟨earlier, reached, result, next, later, reachedBy, here, _, joined⟩ :=
      decodeAll_split before request after decoded
    obtain ⟨same, final', again, length, reachedBlock, position, _⟩ :=
      decodeAll_tiles bytes bounded before copy block
    rw [reachedBy] at again
    cases again
    rw [cursor, Nat.zero_add] at position
    have capacity : reached.bufferLength = bytes.length := by
      rw [← block_length, reachedBlock]
    obtain ⟨outcome, following, answered, fits, refused, slice, _, _⟩ :=
      reached.decode_tile request (by rw [capacity]; exact bounded)
    rw [here] at answered
    cases answered
    rw [capacity, position] at fits
    refine ⟨earlier, reached, result, next, later, reachedBy, here, joined, length, fits,
      refused, ?_⟩
    intro part given
    obtain ⟨same, size⟩ := slice part given
    rw [reachedBlock, position] at same
    exact ⟨size, same⟩
  · intro calls values granted reservedLength reservation
    have flat : (calls.map fun call => call.value.bytes).flatten = bytes.take final.sizeRead := by
      rw [values]
      exact tiled
    have shorter : (bytes.take final.sizeRead).length < 2 ^ 63 :=
      Nat.lt_of_le_of_lt (List.length_take_le' _ _) bounded
    obtain ⟨fresh, rebuilt, created, encoded, contents⟩ :=
      encodeAll_rebuilds calls _ granted flat shorter reservedLength reservation
    refine ⟨fresh, rebuilt, created, encoded, ?_, contents⟩
    rw [size, ← contents_length, contents, ← tiled, ← moved]

/-- A request that does not fit between two that do. -/
theorem decode_tiles_buffer_sample :
    ([1, 2, 3] : List UInt8).length < 2 ^ 63 ∧
      ∃ copy results final, ofBuffer [1, 2, 3] (some fun _ => 0) = some copy ∧
        copy.decodeAll [⟨2, by decide, by decide⟩, ⟨4, by decide, by decide⟩,
          ⟨1, by decide, by decide⟩] = some (results, final) ∧
        produced results = ([1, 2, 3] : List UInt8).take final.sizeRead := by
  have bounded : ([1, 2, 3] : List UInt8).length < 2 ^ 63 := by decide
  obtain ⟨copy, results, final, copied, decoded, _, _, tiled, _⟩ :=
    decode_tiles_buffer [1, 2, 3] bounded (fun _ => 0)
      [⟨2, by decide, by decide⟩, ⟨4, by decide, by decide⟩, ⟨1, by decide, by decide⟩]
  exact ⟨bounded, copy, results, final, copied, decoded, tiled⟩

end Message

end CoreLib
