/-
The capacities that a message goes through.

`Message_NextPOTSize` means to round up to a power of two, and with it `reserve` to
double the block whenever it grows.  Its cascade has no shift by 32, so a set bit
reaches only the 31 positions below it: the result is a power of two exactly when one
less than the request has no 32 consecutive zeros below its highest bit.
-/

import CoreLib.MessageOperations

set_option autoImplicit false

namespace CoreLib

open Foundation

namespace Message

/-! ### The computed capacity -/

theorem isNextPowerOfTwo_Message_NextPOTSize_iff {length : Nat} (positive : 1 ≤ length)
    (bounded : length ≤ 2 ^ 63) :
    IsNextPowerOfTwo length (Message_NextPOTSize length) ↔ Dense 32 (length - 1) := by
  have rounded := isNextPowerOfTwo_smear_iff gapless_cascade (length - 1)
  rw [Nat.sub_add_cancel positive, ← Message_NextPOTSize_eq positive bounded] at rounded
  exact rounded

/-- In the lower 32 bits of the range the cascade is complete. -/
theorem isNextPowerOfTwo_Message_NextPOTSize {length : Nat} (positive : 1 ≤ length)
    (small : length ≤ 2 ^ 32) : IsNextPowerOfTwo length (Message_NextPOTSize length) := by
  apply (isNextPowerOfTwo_Message_NextPOTSize_iff positive (by omega)).mpr
  exact dense_of_size_le (Nat.size_le.mpr (by omega))

/-- The capacity covers the request, or the computation has overflowed to 0. -/
theorem Message_NextPOTSize_cases {length : Nat} (positive : 0 < length)
    (bounded : length < 2 ^ 64) :
    length ≤ Message_NextPOTSize length ∨ (2 ^ 63 < length ∧ Message_NextPOTSize length = 0) := by
  by_cases overflows : Overflows length
  · have zero := Message_NextPOTSize_of_overflows positive bounded overflows
    refine Or.inr ⟨?_, zero⟩
    apply Nat.lt_of_not_le
    intro lower
    have covered := le_Message_NextPOTSize positive lower
    omega
  · exact Or.inl (le_Message_NextPOTSize_of_not_overflows positive bounded overflows)

/-! ### The history of a block -/

structure Growth where
  request : Nat
  before : Nat
  after : Nat
deriving DecidableEq, Repr

structure GrowthLog where
  message : Message
  growths : List Growth

namespace GrowthLog

def start (message : Message) : GrowthLog :=
  { message := message
    growths := [] }

def growth (operation : Operation) (message next : Message) : List Growth :=
  match operation.reservation message with
  | none => []
  | some (request, _) =>
      if message.bufferLength < next.bufferLength then
        [{ request := request, before := message.bufferLength, after := next.bufferLength }]
      else []

def step (log : GrowthLog) (operation : Operation) : Option GrowthLog :=
  (log.message.perform operation).map fun next =>
    { message := next
      growths := log.growths ++ growth operation log.message next }

/-- The history is only recorded: it has no influence on the message. -/
theorem run_message (log : GrowthLog) (operations : List Operation) :
    (run step log operations).map GrowthLog.message = run perform log.message operations := by
  induction operations generalizing log with
  | nil => rfl
  | cons operation rest ih =>
      rw [run_cons, run_cons, step]
      cases log.message.perform operation with
      | none => rfl
      | some next => exact ih _

/-- What `reserve` means to do.  A request is representable up to 2^63, the largest power
of two that size_t can hold. -/
structure Rounded (log : GrowthLog) : Prop where
  powers : ∀ growth ∈ log.growths, growth.request ≤ 2 ^ 63 →
    IsNextPowerOfTwo growth.request growth.after
  doubled : ∀ growth ∈ log.growths.tail,
    Nat.isPowerOfTwo growth.before ∧ 2 * growth.before ≤ growth.after

/-- The condition on a call that obtains another block: a representable request leaves
no gap in the cascade, and a block that has grown to 2^63 bytes does not grow again. -/
def Allows (log : GrowthLog) (operation : Operation) : Prop :=
  ∀ request allocation, operation.reservation log.message = some (request, allocation) →
    log.message.Obtains request allocation →
      (request ≤ 2 ^ 63 → Dense 32 (request - 1)) ∧
        (log.growths = [] ∨ log.message.bufferLength < 2 ^ 63)

/-- Every growth so far is as meant, and so is the capacity that the last one left. -/
structure Powered (log : GrowthLog) : Prop where
  rounded : Rounded log
  capacity : log.growths ≠ [] →
    Nat.isPowerOfTwo log.message.bufferLength ∨ 2 ^ 63 < log.message.bufferLength

theorem powered_start (message : Message) : Powered (start message) :=
  { rounded := { powers := nofun, doubled := nofun }
    capacity := fun grown => absurd rfl grown }

/-! ### One call -/

/-- A call either enlarges the block to the capacity computed for its request, or leaves
the capacity as it is; then it has obtained nothing or the computation has overflowed. -/
theorem step_cases {log next : GrowthLog} {operation : Operation}
    (enabled : log.step operation = some next) :
    (∃ request allocation, operation.reservation log.message = some (request, allocation) ∧
        log.message.Obtains request allocation ∧
        request ≤ next.message.bufferLength ∧
        next.message.bufferLength = Message_NextPOTSize request ∧
        next.growths = log.growths ++
          [{ request := request, before := log.message.bufferLength,
             after := next.message.bufferLength }]) ∨
      (next.message.bufferLength = log.message.bufferLength ∧ next.growths = log.growths ∧
        ∀ request allocation, operation.reservation log.message = some (request, allocation) →
          log.message.Obtains request allocation →
            2 ^ 63 < request ∧ log.message.bufferLength = 0) := by
  obtain ⟨message, performed, same⟩ := Option.map_eq_some_iff.mp enabled
  subst same
  rcases perform_capacity performed with
    ⟨request, allocation, reserves, obtains, larger, size⟩ | ⟨fails, unchanged⟩
  · have bounded := Operation.reservation_bounded reserves
    have positive : 0 < request := Nat.zero_lt_of_lt obtains.1
    rcases Message_NextPOTSize_cases positive bounded with covers | ⟨high, zero⟩
    · rw [← size] at covers
      refine Or.inl ⟨request, allocation, reserves, obtains, covers, size, ?_⟩
      simp only [growth, reserves]
      rw [if_pos (Nat.lt_of_lt_of_le obtains.1 covers)]
    · have empty : log.message.bufferLength = 0 := by omega
      refine Or.inr ⟨by rw [size, zero, empty], ?_, ?_⟩
      · simp only [growth, reserves]
        rw [if_neg (by omega), List.append_nil]
      · intro other given again _
        rw [reserves] at again
        cases again
        exact ⟨high, empty⟩
  · refine Or.inr ⟨unchanged, ?_, ?_⟩
    · simp only [growth]
      split
      · exact List.append_nil _
      · rw [if_neg (by omega), List.append_nil]
    · intro request allocation reserves obtains
      exact absurd obtains (fails request allocation reserves)

private theorem mem_tail_append {growths : List Growth} {last entry : Growth}
    (member : entry ∈ (growths ++ [last]).tail) :
    entry ∈ growths.tail ∨ (growths ≠ [] ∧ entry = last) := by
  cases growths with
  | nil => contradiction
  | cons first rest =>
      rw [List.cons_append, List.tail_cons, List.mem_append, List.mem_singleton] at member
      rcases member with earlier | newest
      · exact Or.inl earlier
      · exact Or.inr ⟨List.cons_ne_nil first rest, newest⟩

private theorem capacity_after {request after : Nat} (positive : 0 < request)
    (dense : request ≤ 2 ^ 63 → Dense 32 (request - 1)) (covers : request ≤ after)
    (size : after = Message_NextPOTSize request) :
    (request ≤ 2 ^ 63 → IsNextPowerOfTwo request after) ∧
      (Nat.isPowerOfTwo after ∨ 2 ^ 63 < after) := by
  by_cases representable : request ≤ 2 ^ 63
  · have next := (isNextPowerOfTwo_Message_NextPOTSize_iff positive representable).mpr
      (dense representable)
    rw [← size] at next
    exact ⟨fun _ => next, Or.inl next.1.1⟩
  · exact ⟨fun lower => absurd lower representable, Or.inr (by omega)⟩

theorem powered_step (log : GrowthLog) (operation : Operation) (next : GrowthLog)
    (powered : Powered log) (allows : log.Allows operation)
    (enabled : log.step operation = some next) : Powered next := by
  rcases step_cases enabled with
    ⟨request, allocation, reserves, obtains, covers, size, growths⟩ | ⟨same, kept, _⟩
  · obtain ⟨dense, room⟩ := allows request allocation reserves obtains
    have larger := Nat.lt_of_lt_of_le obtains.1 covers
    obtain ⟨rounds, capacity⟩ := capacity_after (Nat.zero_lt_of_lt obtains.1) dense covers size
    refine ⟨⟨?_, ?_⟩, fun _ => capacity⟩
    · rw [growths]
      intro entry member
      rw [List.mem_append, List.mem_singleton] at member
      rcases member with earlier | newest
      · exact powered.rounded.powers entry earlier
      · subst entry
        exact rounds
    · rw [growths]
      intro entry member
      rcases mem_tail_append member with earlier | ⟨grown, newest⟩
      · exact powered.rounded.doubled entry earlier
      · subst entry
        have below : log.message.bufferLength < 2 ^ 63 := room.resolve_left grown
        have power : Nat.isPowerOfTwo log.message.bufferLength :=
          (powered.capacity grown).resolve_right (by omega)
        refine ⟨power, ?_⟩
        rcases capacity with rounded | high
        · exact two_mul_le_of_isPowerOfTwo power rounded larger
        · have half := two_mul_le_of_isPowerOfTwo power ⟨63, rfl⟩ below
          exact half.trans (Nat.le_of_lt high)
  · refine ⟨⟨?_, ?_⟩, ?_⟩
    · rw [kept]
      exact powered.rounded.powers
    · rw [kept]
      exact powered.rounded.doubled
    · rw [kept, same]
      exact powered.capacity

/-- A call that the condition forbids leaves a growth that is not as meant. -/
theorem forbidden_not_rounded (log : GrowthLog) (operation : Operation) (next : GrowthLog)
    (forbidden : ¬ log.Allows operation) (enabled : log.step operation = some next) :
    ¬ Rounded next := by
  intro rounded
  apply forbidden
  intro request allocation reserves obtains
  rcases step_cases enabled with
    ⟨other, given, again, _, covers, size, growths⟩ | ⟨_, _, overflowed⟩
  · rw [reserves] at again
    cases again
    have absent := obtains.1
    constructor
    · intro representable
      have last := rounded.powers _ (by rw [growths]; exact List.mem_concat_self) representable
      rw [size] at last
      exact (isNextPowerOfTwo_Message_NextPOTSize_iff (by omega) representable).mp last
    · by_cases first : log.growths = []
      · exact Or.inl first
      · have last := rounded.doubled
          { request := request, before := log.message.bufferLength,
            after := next.message.bufferLength } (by
            rw [growths, List.tail_append_of_ne_nil first]
            exact List.mem_concat_self)
        have upper : next.message.bufferLength < 2 ^ 64 := by
          rw [size]
          exact Nat.mod_lt _ (by decide)
        have doubled := last.2
        simp only at doubled
        exact Or.inr (by omega)
  · obtain ⟨high, empty⟩ := overflowed request allocation reserves obtains
    exact ⟨fun lower => absurd lower (by omega), Or.inr (by omega)⟩

/-- Requests of at most 2^32 bytes always meet the condition. -/
theorem allows_of_small {log : GrowthLog} {operation : Operation}
    (small : ∀ request allocation, operation.reservation log.message = some (request, allocation) →
      request ≤ 2 ^ 32) : log.Allows operation := by
  intro request allocation reserves obtains
  have bounded := small request allocation reserves
  have absent := obtains.1
  refine ⟨?_, Or.inr (by omega)⟩
  intro representable
  have positive : 1 ≤ request := by omega
  exact (isNextPowerOfTwo_Message_NextPOTSize_iff positive representable).mp
    (isNextPowerOfTwo_Message_NextPOTSize positive bounded)

/-! ### Every request and every run -/

/-- The function for every representable length, and the block of every message over
every run. -/
theorem capacities_rounded_iff {length : Nat} (positive : 1 ≤ length) (bounded : length ≤ 2 ^ 63)
    (message : Message) (operations : List Operation) :
    (IsNextPowerOfTwo length (Message_NextPOTSize length) ↔ Dense 32 (length - 1)) ∧
      (Always step Rounded (start message) operations ↔
        Respects step Allows (start message) operations) := by
  constructor
  · exact isNextPowerOfTwo_Message_NextPOTSize_iff positive bounded
  · exact always_iff_respects (fun _ => True) Powered
      (fun log operation next powered _ => powered_step log operation next powered)
      (fun _ => Powered.rounded)
      (fun log operation next _ => forbidden_not_rounded log operation next)
      (powered_start message) (fun _ _ => trivial)

def smallCalls : List Operation :=
  [.reserve 3 (by decide) (some fun _ => 0), .reserve 5 (by decide) (some fun _ => 0)]

theorem capacities_rounded_iff_sample :
    1 ≤ 3 ∧ 3 ≤ 2 ^ 63 ∧ Respects step Allows (start .empty) smallCalls ∧
      (IsNextPowerOfTwo 3 (Message_NextPOTSize 3) ↔ Dense 32 (3 - 1)) ∧
      (Always step Rounded (start .empty) smallCalls ↔
        Respects step Allows (start .empty) smallCalls) := by
  refine ⟨by decide, by decide, ?_,
    capacities_rounded_iff (by decide) (by decide) .empty smallCalls⟩
  apply Respects.of_forall
  intro log operation member
  apply allows_of_small
  intro request allocation reserves
  simp only [smallCalls, List.mem_cons, List.not_mem_nil, or_false] at member
  rcases member with first | second
  · subst operation
    cases reserves
    decide
  · subst operation
    cases reserves
    decide

/-- The least request that leaves a gap, and then the next power of two. -/
def gapCalls : List Operation :=
  [.reserve (2 ^ 32 + 1) (by decide) (some fun _ => 0),
    .reserve (2 ^ 33) (by decide) (some fun _ => 0)]

private theorem gap_capacity_not_power : ¬ Nat.isPowerOfTwo (2 ^ 33 - 1) := by
  intro power
  obtain ⟨exponent, same⟩ := power
  cases exponent with
  | zero => contradiction
  | succ half =>
      rw [Nat.pow_succ] at same
      omega

/-- The capacity for 2^32 + 1 bytes is odd, and the second growth adds one byte. -/
theorem gap_not_rounded :
    Message_NextPOTSize (2 ^ 32 + 1) = 2 ^ 33 - 1 ∧
      ¬ IsNextPowerOfTwo (2 ^ 32 + 1) (Message_NextPOTSize (2 ^ 32 + 1)) ∧
      (run step (start .empty) gapCalls).map GrowthLog.growths =
        some [{ request := 2 ^ 32 + 1, before := 0, after := 2 ^ 33 - 1 },
          { request := 2 ^ 33, before := 2 ^ 33 - 1, after := 2 ^ 33 }] ∧
      ¬ Always step Rounded (start .empty) gapCalls := by
  have computed : Message_NextPOTSize (2 ^ 32 + 1) = 2 ^ 33 - 1 := by decide
  have history : (run step (start .empty) gapCalls).map GrowthLog.growths =
      some [{ request := 2 ^ 32 + 1, before := 0, after := 2 ^ 33 - 1 },
        { request := 2 ^ 33, before := 2 ^ 33 - 1, after := 2 ^ 33 }] := by decide
  refine ⟨computed, ?_, history, ?_⟩
  · rw [computed]
    intro next
    exact gap_capacity_not_power next.1.1
  · intro always
    obtain ⟨final, performed, growths⟩ := Option.map_eq_some_iff.mp history
    have first := (always.final performed).powers _ (growths ▸ List.mem_cons_self) (by decide)
    exact gap_capacity_not_power first.1.1

end GrowthLog

end Message

end CoreLib
