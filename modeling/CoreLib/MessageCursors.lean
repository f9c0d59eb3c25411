/-
The three cursors of a message under any mix of encodes and decodes.

A session is one message together with what its user has put into it and taken out
of it.  `decode` compares with `_bufferLength` and not with `_dataLength`, so a
request that ends in the slack which the rounded capacity leaves behind the data is
granted.  The session is honest exactly as long as no request ends there.
-/

import CoreLib.Foundation.Runs
import CoreLib.MessageCodec

set_option autoImplicit false

namespace CoreLib

open Foundation

namespace Message

/-! ### Every outcome of one call -/

theorem reserve_cases {message next : Message} {length : Nat} {allocation : Allocation}
    {success : Bool} (returned : message.reserve length allocation = some (success, next)) :
    (success = false ∧ next = message) ∨ (success = true ∧ Grown message next) := by
  unfold reserve at returned
  split at returned
  · cases returned
    exact Or.inr ⟨rfl, Grown.refl message⟩
  · rcases resizeBuffer_cases returned with ⟨failed, _, same⟩ | ⟨granted, _, grown, _⟩
    · exact Or.inl ⟨failed, same⟩
    · exact Or.inr ⟨granted, grown⟩

theorem append_cases {message next : Message} {bytes : List UInt8}
    (appended : message.append bytes = some next) :
    message.dataLength + bytes.length ≤ message.bufferLength ∧
      next.contents = message.contents ++ bytes ∧ next.sizeRead = message.sizeRead := by
  by_cases room : message.dataLength + bytes.length ≤ message.bufferLength
  · obtain ⟨written, same, _, contents, read⟩ := append_spec room
    rw [appended] at same
    cases same
    exact ⟨room, contents, read⟩
  · rw [append, dif_neg room] at appended
    contradiction

/-- What `encode` does is one reservation and, when that succeeds, one copy. -/
theorem encode_reserves {message next : Message} {value : Value} {allocation : Allocation}
    {success : Bool} (returned : message.encode value allocation = some (success, next)) :
    ∃ reserved, message.reserve ((message.dataLength + value.bytes.length) % 2 ^ 64) allocation =
        some (success, reserved) ∧
      ((success = false ∧ next = reserved) ∨
        (success = true ∧ reserved.append value.bytes = some next)) := by
  unfold encode at returned
  split at returned
  · contradiction
  · rename_i unchanged reserved
    cases returned
    exact ⟨next, reserved, Or.inl ⟨rfl, rfl⟩⟩
  · rename_i larger reserved
    obtain ⟨written, appended, same⟩ := Option.map_eq_some_iff.mp returned
    cases same
    exact ⟨larger, reserved, Or.inr ⟨rfl, appended⟩⟩

theorem encode_cases {message next : Message} {value : Value} {allocation : Allocation}
    {success : Bool} (returned : message.encode value allocation = some (success, next)) :
    (success = false ∧ next = message) ∨
      (success = true ∧ next.contents = message.contents ++ value.bytes ∧
        next.sizeRead = message.sizeRead) := by
  obtain ⟨reserved, granted, written⟩ := encode_reserves returned
  rcases written with ⟨failed, same⟩ | ⟨succeeded, appended⟩
  · rcases reserve_cases granted with ⟨_, unchanged⟩ | ⟨succeeded, _⟩
    · exact Or.inl ⟨failed, same.trans unchanged⟩
    · rw [failed] at succeeded
      contradiction
  · rcases reserve_cases granted with ⟨failed, _⟩ | ⟨_, grown⟩
    · rw [succeeded] at failed
      contradiction
    · obtain ⟨_, contents, read⟩ := append_cases appended
      rw [grown.contents] at contents
      exact Or.inr ⟨succeeded, contents, read.trans grown.sizeRead⟩

/-- The request ends behind the data but, in size_t arithmetic, not behind the buffer. -/
def EndsInSlack (message : Message) (size : ObjectSize) : Prop :=
  message.dataLength < message.sizeRead + size.bytes ∧
    (size.bytes + message.sizeRead) % 2 ^ 64 ≤ message.bufferLength

theorem decode_granted {message next : Message} {size : ObjectSize} {bytes : List UInt8}
    (returned : message.decode size = some (some bytes, next)) :
    (size.bytes + message.sizeRead) % 2 ^ 64 ≤ message.bufferLength ∧
      bytes = (message.block.drop message.sizeRead).take size.bytes ∧
      next.sizeRead = message.sizeRead + size.bytes ∧
      next.block = message.block ∧ next.dataLength = message.dataLength := by
  unfold decode at returned
  split at returned
  · cases returned
  · rename_i passed
    split at returned
    · cases returned
      exact ⟨Nat.le_of_not_lt passed, rfl, rfl, rfl, rfl⟩
    · contradiction

theorem decode_refused {message next : Message} {size : ObjectSize}
    (returned : message.decode size = some (none, next)) :
    message.bufferLength < (size.bytes + message.sizeRead) % 2 ^ 64 ∧ next = message := by
  unfold decode at returned
  split at returned
  · rename_i exceeds
    cases returned
    exact ⟨exceeds, rfl⟩
  · split at returned
    · cases returned
    · cases returned

theorem decode_undefined {message : Message} {size : ObjectSize}
    (returned : message.decode size = none) :
    (size.bytes + message.sizeRead) % 2 ^ 64 ≤ message.bufferLength ∧
      message.bufferLength < message.sizeRead + size.bytes := by
  unfold decode at returned
  split at returned
  · contradiction
  · rename_i passed
    split at returned
    · contradiction
    · rename_i outside
      exact ⟨Nat.le_of_not_lt passed, Nat.lt_of_not_le outside⟩

/-- The bytes of the block up to a cursor in the data are the same bytes of the data. -/
theorem contents_take (message : Message) {count : Nat} (within : count ≤ message.dataLength) :
    message.contents.take count = message.block.take count := by
  rw [contents, List.take_take, Nat.min_eq_left within]

theorem contents_slice (message : Message) {start count : Nat}
    (within : start + count ≤ message.dataLength) :
    message.contents.take start ++ (message.block.drop start).take count =
      message.contents.take (start + count) := by
  rw [message.contents_take within, message.contents_take (Nat.le_of_add_right_le within),
    List.take_add]

/-! ### Sessions -/

/-- One finished `decode`: the request, the two cursors it saw and what it returned,
which is absent when it copied from outside the block. -/
structure DecodeRecord where
  requested : Nat
  sizeRead : Nat
  size : Nat
  returned : Option Bool
deriving DecidableEq, Repr

structure Session where
  message : Message
  supplied : List UInt8
  produced : List UInt8
  decodes : List DecodeRecord

inductive Call where
  | encode (value : Value) (allocation : Allocation)
  | decode (size : ObjectSize)

namespace Session

def start (message : Message) (initial : List UInt8) : Session :=
  { message := message
    supplied := initial
    produced := []
    decodes := [] }

inductive Starts : Session → Prop where
  | created (reservedLength : Nat) (reservation : Allocation) (message : Message)
      (built : create reservedLength reservation = some message) : Starts (start message [])
  | copied (bytes : List UInt8) (allocation : Allocation) (message : Message)
      (built : ofBuffer bytes allocation = some message) : Starts (start message bytes)

def record (session : Session) (size : ObjectSize) (returned : Option Bool) : DecodeRecord :=
  { requested := size.bytes
    sizeRead := session.message.sizeRead
    size := session.message.size
    returned := returned }

/-- A failed assertion in `encode` ends the program and with it the session. -/
def step (session : Session) : Call → Option Session
  | .encode value allocation =>
      (session.message.encode value allocation).map fun (success, next) =>
        { session with
          message := next
          supplied := if success then session.supplied ++ value.bytes else session.supplied }
  | .decode size =>
      match session.message.decode size with
      | none => some
          { session with decodes := session.decodes ++ [session.record size none] }
      | some (none, next) => some
          { session with
            message := next
            decodes := session.decodes ++ [session.record size (some false)] }
      | some (some bytes, next) => some
          { session with
            message := next
            produced := session.produced ++ bytes
            decodes := session.decodes ++ [session.record size (some true)] }

/-- `decode` returned true exactly for a request that ends in the data. -/
def DecodeRecord.Exact (entry : DecodeRecord) : Prop :=
  entry.returned = some (decide (entry.requested + entry.sizeRead ≤ entry.size))

/-- Only bytes that were put into the message have come out of it. -/
structure Honest (session : Session) : Prop where
  read : session.message.sizeRead ≤ session.message.size
  capacity : session.message.size ≤ session.message.bufferLength
  decodes : ∀ entry ∈ session.decodes, DecodeRecord.Exact entry
  supplied : session.produced <+: session.supplied

/-- The condition on a call: a `decode` does not end in the slack. -/
def AvoidsSlack (session : Session) : Call → Prop
  | .encode _ _ => True
  | .decode size => ¬ session.message.EndsInSlack size

/-- The data is what was supplied, and the read cursor counts what was produced. -/
structure Faithful (session : Session) : Prop where
  read : session.message.sizeRead ≤ session.message.dataLength
  contents : session.message.contents = session.supplied
  produced : session.produced = session.message.contents.take session.message.sizeRead
  decodes : ∀ entry ∈ session.decodes, DecodeRecord.Exact entry

theorem Faithful.honest {session : Session} (faithful : Faithful session) : Honest session :=
  { read := faithful.read
    capacity := session.message.dataWithin
    decodes := faithful.decodes
    supplied := by
      rw [faithful.produced, faithful.contents]
      exact List.take_prefix _ _ }

theorem faithful_start {session : Session} (starts : Starts session) : Faithful session := by
  cases starts with
  | created reservedLength reservation message built =>
      obtain ⟨same, returned, empty, read, _⟩ := create_spec reservedLength reservation
      rw [built] at returned
      cases returned
      have none_yet : message.contents = [] := by
        rw [contents, empty, List.take_zero]
      exact
        { read := by simp [start, read]
          contents := none_yet
          produced := by simp [start, none_yet]
          decodes := by simp [start] }
  | copied bytes allocation message built =>
      cases allocation with
      | none => contradiction
      | some fill =>
          obtain ⟨same, returned, _, _, read, contents, _⟩ := ofBuffer_spec bytes fill
          rw [built] at returned
          cases returned
          exact
            { read := by simp [start, read]
              contents := contents
              produced := by simp [start, read]
              decodes := by simp [start] }

/-! ### One call -/

private theorem exact_append {session : Session} {size : ObjectSize} {returned : Option Bool}
    (before : ∀ entry ∈ session.decodes, DecodeRecord.Exact entry)
    (last : DecodeRecord.Exact (session.record size returned)) :
    ∀ entry ∈ session.decodes ++ [session.record size returned], DecodeRecord.Exact entry := by
  intro entry member
  rw [List.mem_append, List.mem_singleton] at member
  rcases member with earlier | newest
  · exact before entry earlier
  · rw [newest]
    exact last

private theorem encode_faithful {session next : Session} {value : Value}
    {allocation : Allocation} (faithful : Faithful session)
    (enabled : session.step (.encode value allocation) = some next) : Faithful next := by
  obtain ⟨⟨success, message⟩, returned, same⟩ := Option.map_eq_some_iff.mp enabled
  subst same
  rcases encode_cases returned with ⟨failed, unchanged⟩ | ⟨succeeded, contents, read⟩
  · subst success message
    exact ⟨faithful.read, faithful.contents, faithful.produced, faithful.decodes⟩
  · subst success
    have cursor : session.message.sizeRead ≤ session.message.contents.length := by
      rw [contents_length]
      exact faithful.read
    refine ⟨?_, ?_, ?_, faithful.decodes⟩
    · change message.sizeRead ≤ message.dataLength
      rw [← contents_length, contents, read, List.length_append]
      exact Nat.le_add_right_of_le cursor
    · simp [contents, faithful.contents]
    · change session.produced = message.contents.take message.sizeRead
      rw [contents, read, List.take_append_of_le_length cursor, faithful.produced]

private theorem decode_faithful {session next : Session} {size : ObjectSize}
    (faithful : Faithful session) (avoids : ¬ session.message.EndsInSlack size)
    (enabled : session.step (.decode size) = some next) : Faithful next := by
  unfold step at enabled
  simp only at enabled
  split at enabled
  · rename_i undefined
    have slack := decode_undefined undefined
    have within := session.message.dataWithin
    exact absurd ⟨by omega, slack.1⟩ avoids
  · rename_i message refused
    obtain ⟨exceeds, unchanged⟩ := decode_refused refused
    subst message
    cases enabled
    refine ⟨faithful.read, faithful.contents, faithful.produced, exact_append faithful.decodes ?_⟩
    have within := session.message.dataWithin
    have reduced := Nat.mod_le (size.bytes + session.message.sizeRead) (2 ^ 64)
    have outside : ¬ size.bytes + session.message.sizeRead ≤ session.message.size := by
      rw [Message.size]
      omega
    simp [DecodeRecord.Exact, record, outside]
  · rename_i bytes message granted
    obtain ⟨passed, slice, read, block, length⟩ := decode_granted granted
    cases enabled
    have inside : session.message.sizeRead + size.bytes ≤ session.message.dataLength := by
      apply Nat.le_of_not_lt
      intro beyond
      exact avoids ⟨beyond, passed⟩
    have contents : message.contents = session.message.contents := by
      rw [Message.contents, Message.contents, block, length]
    refine ⟨?_, ?_, ?_, exact_append faithful.decodes ?_⟩
    · change message.sizeRead ≤ message.dataLength
      rw [read, length]
      exact inside
    · exact contents.trans faithful.contents
    · change session.produced ++ bytes = message.contents.take message.sizeRead
      rw [contents, read, faithful.produced, slice, contents_slice _ inside]
    · have ends : size.bytes + session.message.sizeRead ≤ session.message.size := by
        rw [Nat.add_comm]
        exact inside
      simp [DecodeRecord.Exact, record, ends]

theorem faithful_step (session : Session) (call : Call) (next : Session)
    (faithful : Faithful session) (avoids : session.AvoidsSlack call)
    (enabled : session.step call = some next) : Faithful next := by
  cases call with
  | encode value allocation => exact encode_faithful faithful enabled
  | decode size => exact decode_faithful faithful avoids enabled

/-- A request that ends in the slack is granted, or copies from outside the block. -/
theorem slack_dishonest (session : Session) (call : Call) (next : Session)
    (ends : ¬ session.AvoidsSlack call) (enabled : session.step call = some next) :
    ¬ Honest next := by
  cases call with
  | encode value allocation => exact absurd trivial ends
  | decode size =>
      obtain ⟨beyond, passed⟩ := Classical.not_not.mp ends
      have outside : ¬ size.bytes + session.message.sizeRead ≤ session.message.size := by
        rw [Message.size]
        omega
      intro honest
      unfold step at enabled
      simp only at enabled
      split at enabled
      · cases enabled
        have last := honest.decodes (session.record size none) (by simp)
        simp [DecodeRecord.Exact, record] at last
      · rename_i refused
        have exceeds := (decode_refused refused).1
        omega
      · cases enabled
        have last := honest.decodes (session.record size (some true)) (by simp)
        simp [DecodeRecord.Exact, record, outside] at last

/-! ### Every run -/

theorem honest_iff_avoids_slack {session : Session} (starts : Starts session)
    (calls : List Call) :
    Always step Honest session calls ↔ Respects step AvoidsSlack session calls :=
  always_iff_respects (fun _ => True) Faithful
    (fun current call next faithful _ => faithful_step current call next faithful)
    (fun _ => Faithful.honest)
    (fun current call next _ => slack_dishonest current call next)
    (faithful_start starts) (fun _ _ => trivial)

/-- Three bytes are encoded into a block of four, and four bytes are decoded. -/
def slackCalls : List Call :=
  [.encode ⟨[1, 2, 3], by decide, by decide⟩ (some fun _ => 9), .decode ⟨4, by decide, by decide⟩]

theorem honest_iff_avoids_slack_sample :
    Starts (start .empty []) ∧
      (Always step Honest (start .empty []) slackCalls ↔
        Respects step AvoidsSlack (start .empty []) slackCalls) := by
  have starts : Starts (start .empty []) := .created 0 none .empty rfl
  exact ⟨starts, honest_iff_avoids_slack starts slackCalls⟩

/-- The fourth byte was never put into the message. -/
theorem slack_byte_handed_out :
    Starts (start .empty []) ∧
      (run step (start .empty []) slackCalls).map Session.produced = some [1, 2, 3, 9] ∧
      ¬ Always step Honest (start .empty []) slackCalls := by
  refine ⟨.created 0 none .empty rfl, by decide, ?_⟩
  intro always
  cases performed : run step (start .empty []) slackCalls with
  | none => exact absurd performed (by decide)
  | some final =>
      have supplied := (always.final performed).supplied
      have taken : (run step (start .empty []) slackCalls).map
          (fun session => (session.produced, session.supplied)) =
            some ([1, 2, 3, 9], [1, 2, 3]) := by decide
      rw [performed] at taken
      simp only [Option.map_some, Option.some.injEq, Prod.mk.injEq] at taken
      rw [taken.1, taken.2] at supplied
      exact absurd supplied (by decide)

end Session

end Message

end CoreLib
