/-
Two connected ends that send and read at the same time.

Each end has one lock, one sender thread and one looper thread.  `WriteMessage` and
`ReadMessages` take the lock on entry and release it on return.  The kernel holds at
most `capacity side` packets on their way from an end; a sendmsg on a full queue fails
with EAGAIN and the writer then waits in poll, still under the lock, until there is
space.  No call is interrupted here, so that an enabled step is progress.  What a
read makes of a packet, and that some packets end the channel, is the subject of
`Delivery`; here a read only pops.
-/

import CoreLib.Channel
import CoreLib.Foundation.Runs

set_option autoImplicit false

namespace CoreLib.Duplex

open Foundation Socket

inductive Side where
  | a
  | b
deriving DecidableEq

def Side.other : Side → Side
  | .a => .b
  | .b => .a

inductive Holder where
  | sender
  | looper
deriving DecidableEq

inductive Reader where
  | idle
  | recvmsg
  | returned
deriving DecidableEq

structure End where
  lock : Option Holder
  sending : Option (Message × WritePoint)
  reading : Reader
  incoming : Nat

abbrev State := Side → End

inductive Action where
  | send (side : Side) (message : Message)
  | write (side : Side)
  | read (side : Side)

def initial : State := fun _ =>
  { lock := none
    sending := none
    reading := .idle
    incoming := 0 }

namespace State

variable (capacity : Side → Nat) (state : State) (side : Side)

def set (changed : End) : State := Function.update state side changed

def outgoing : Nat := (state side.other).incoming

def send (message : Message) : Option State :=
  if (state side).lock = none ∧ (state side).sending = none ∧
      message.size ≤ Channel.maxMessageSize then
    some (state.set side { state side with
      lock := some .sender
      sending := some (message, WriteMessage.enter message) })
  else none

def enqueue (message : Message) : State :=
  let sent := state.set side { state side with
    sending := some (message, WriteMessage.afterSendmsg message
      { rc := message.size, errno := .other 0 }) }
  sent.set side.other { state side.other with incoming := state.outgoing side + 1 }

/-- The next system call of a running `WriteMessage`, or its return. -/
def write : Option State :=
  match (state side).sending with
  | some (message, .sendmsg) =>
      if state.outgoing side < capacity side then some (state.enqueue side message)
      else some (state.set side { state side with
        sending := some (message, WriteMessage.afterSendmsg message (.failure .EAGAIN)) })
  | some (message, .poll) =>
      if state.outgoing side < capacity side then
        some (state.set side { state side with
          sending := some (message, WriteMessage.afterPoll { rc := 1, errno := .other 0 }) })
      else none
  | some (_, .returned _) =>
      some (state.set side { state side with
        lock := none
        sending := none })
  | _ => none

/-- The looper thread reads when its queue is not empty: it takes the lock, pops
until the queue is empty, and returns. -/
def read : Option State :=
  match (state side).reading with
  | .idle =>
      if 0 < (state side).incoming ∧ (state side).lock = none then
        some (state.set side { state side with
          lock := some .looper
          reading := .recvmsg })
      else none
  | .recvmsg =>
      if 0 < (state side).incoming then
        some (state.set side { state side with incoming := (state side).incoming - 1 })
      else some (state.set side { state side with reading := .returned })
  | .returned =>
      some (state.set side { state side with
        lock := none
        reading := .idle })

end State

def step (capacity : Side → Nat) (state : State) : Action → Option State
  | .send side message => state.send side message
  | .write side => state.write capacity side
  | .read side => state.read side

/-- The sender of this end waits in poll for a queue that is full. -/
def Blocked (capacity : Side → Nat) (state : State) (side : Side) : Prop :=
  (∃ message, (state side).sending = some (message, .poll)) ∧ capacity side ≤ state.outgoing side

/-- While a sender is blocked, some thread can go on. -/
def Progress (capacity : Side → Nat) (state : State) : Prop :=
  (∃ side, Blocked capacity state side) → ∃ action, (step capacity state action).isSome = true

/-- A sendmsg that finds its queue full does not do so while the other end's sender is
blocked. -/
def WaitsAlone (capacity : Side → Nat) (state : State) : Action → Prop
  | .write side => (∃ message, (state side).sending = some (message, .sendmsg)) →
      capacity side ≤ state.outgoing side → ¬ Blocked capacity state side.other
  | _ => True

/-! ### What a step can do -/

inductive Transition (capacity : Side → Nat) (state : State) : Action → State → Prop where
  | send (side : Side) (message : Message) (free : (state side).lock = none)
      (idle : (state side).sending = none) (small : message.size ≤ Channel.maxMessageSize) :
      Transition capacity state (.send side message) (state.set side { state side with
        lock := some .sender
        sending := some (message, WriteMessage.enter message) })
  | enqueue (side : Side) (message : Message)
      (here : (state side).sending = some (message, .sendmsg))
      (space : state.outgoing side < capacity side) :
      Transition capacity state (.write side) (state.enqueue side message)
  | full (side : Side) (message : Message)
      (here : (state side).sending = some (message, .sendmsg))
      (full : capacity side ≤ state.outgoing side) :
      Transition capacity state (.write side) (state.set side { state side with
        sending := some (message, .poll) })
  | retry (side : Side) (message : Message)
      (here : (state side).sending = some (message, .poll))
      (space : state.outgoing side < capacity side) :
      Transition capacity state (.write side) (state.set side { state side with
        sending := some (message, .sendmsg) })
  | leave (side : Side) (message : Message) (status : Status)
      (here : (state side).sending = some (message, .returned status)) :
      Transition capacity state (.write side) (state.set side { state side with
        lock := none
        sending := none })
  | enter (side : Side) (here : (state side).reading = .idle) (free : (state side).lock = none)
      (ready : 0 < (state side).incoming) :
      Transition capacity state (.read side) (state.set side { state side with
        lock := some .looper
        reading := .recvmsg })
  | pop (side : Side) (here : (state side).reading = .recvmsg)
      (ready : 0 < (state side).incoming) :
      Transition capacity state (.read side) (state.set side { state side with
        incoming := (state side).incoming - 1 })
  | drained (side : Side) (here : (state side).reading = .recvmsg)
      (empty : (state side).incoming = 0) :
      Transition capacity state (.read side) (state.set side { state side with
        reading := .returned })
  | finish (side : Side) (here : (state side).reading = .returned) :
      Transition capacity state (.read side) (state.set side { state side with
        lock := none
        reading := .idle })

theorem step_cases {capacity : Side → Nat} {state next : State} {action : Action}
    (enabled : step capacity state action = some next) :
    Transition capacity state action next := by
  cases action with
  | send side message =>
      change state.send side message = some next at enabled
      unfold State.send at enabled
      split at enabled
      · rename_i allowed
        cases enabled
        exact .send side message allowed.1 allowed.2.1 allowed.2.2
      · contradiction
  | write side =>
      change state.write capacity side = some next at enabled
      unfold State.write at enabled
      split at enabled
      · rename_i message here
        split at enabled
        · rename_i space
          cases enabled
          exact .enqueue side message here space
        · rename_i full
          cases enabled
          exact .full side message here (Nat.le_of_not_lt full)
      · rename_i message here
        split at enabled
        · rename_i space
          cases enabled
          exact .retry side message here space
        · contradiction
      · rename_i message status here
        cases enabled
        exact .leave side message status here
      · contradiction
  | read side =>
      change state.read side = some next at enabled
      unfold State.read at enabled
      split at enabled
      · rename_i here
        split at enabled
        · rename_i allowed
          cases enabled
          exact .enter side here allowed.2 allowed.1
        · contradiction
      · rename_i here
        split at enabled
        · rename_i ready
          cases enabled
          exact .pop side here ready
        · rename_i empty
          cases enabled
          exact .drained side here (Nat.eq_zero_of_not_pos empty)
      · rename_i here
        cases enabled
        exact .finish side here

theorem other_ne (side : Side) : side.other ≠ side := by
  cases side <;> decide

theorem other_other (side : Side) : side.other.other = side := by
  cases side <;> rfl

theorem eq_or_other (side reference : Side) : side = reference ∨ side = reference.other := by
  cases side <;> cases reference <;> decide

theorem set_same (state : State) (side : Side) (changed : End) :
    state.set side changed side = changed := Function.update_self ..

theorem set_other (state : State) (side : Side) (changed : End) :
    state.set side changed side.other = state side.other :=
  Function.update_of_ne (other_ne side) ..

theorem forall_set {holds : End → Prop} {state : State} {side : Side} {changed : End}
    (here : holds changed) (everywhere : ∀ side, holds (state side)) :
    ∀ other, holds (state.set side changed other) := by
  intro other
  rcases eq_or_other other side with same | same
  · rw [same, set_same]
    exact here
  · rw [same, set_other]
    exact everywhere _

/-! ### The lock -/

/-- The lock is held by the thread that is inside `WriteMessage` or `ReadMessages`. -/
structure Locked (side : End) : Prop where
  sender : side.sending.isSome = true ↔ side.lock = some .sender
  looper : side.reading ≠ .idle ↔ side.lock = some .looper
  small : ∀ message point, side.sending = some (message, point) →
    message.size ≤ Channel.maxMessageSize
  running : ∀ message, side.sending ≠ some (message, .aborted)

theorem Locked.not_sending {side : End} (locked : Locked side)
    (elsewhere : side.lock ≠ some .sender) : side.sending = none := by
  apply Option.not_isSome_iff_eq_none.mp
  intro busy
  exact elsewhere (locked.sender.mp busy)

theorem Locked.not_reading {side : End} (locked : Locked side)
    (elsewhere : side.lock ≠ some .looper) : side.reading = .idle := by
  apply Classical.byContradiction
  intro busy
  exact elsewhere (locked.looper.mp busy)

private theorem Locked.write {side : End} (locked : Locked side) {message : Message}
    {point : WritePoint} (here : side.sending = some (message, point)) (after : WritePoint)
    (running : after ≠ .aborted) :
    Locked { side with sending := some (message, after) } := by
  have held := locked.sender.mp (by rw [here]; rfl)
  refine ⟨⟨fun _ => held, fun _ => rfl⟩, locked.looper, ?_, ?_⟩
  · intro other position found
    cases found
    exact locked.small _ _ here
  · intro other found
    cases found
    exact running rfl

theorem Locked.acquire {side : End} (locked : Locked side) (free : side.lock = none)
    {message : Message} (small : message.size ≤ Channel.maxMessageSize) :
    Locked { side with
      lock := some .sender
      sending := some (message, WriteMessage.enter message) } := by
  have idle := locked.not_reading (by rw [free]; nofun)
  rw [Channel.enter_small small]
  refine ⟨⟨fun _ => rfl, fun _ => rfl⟩, ⟨fun busy => absurd idle busy, nofun⟩, ?_, nofun⟩
  intro other position found
  cases found
  exact small

theorem Transition.locked {capacity : Side → Nat} {state next : State} {action : Action}
    (transition : Transition capacity state action next)
    (locked : ∀ side, Locked (state side)) : ∀ side, Locked (next side) := by
  cases transition with
  | send side message free idle small =>
      exact forall_set ((locked side).acquire free small) locked
  | enqueue side message here space =>
      have bounded : message.size ≤ MaxBufferSize :=
        Nat.le_trans ((locked side).small message _ here) (by decide)
      have sent := (locked side).write here (WriteMessage.afterSendmsg message
        { rc := message.size, errno := .other 0 })
        (by rw [afterSendmsg_complete bounded]; nofun)
      have other := locked side.other
      exact forall_set ⟨other.sender, other.looper, other.small, other.running⟩
        (forall_set sent locked)
  | full side message here full => exact forall_set ((locked side).write here _ nofun) locked
  | retry side message here space => exact forall_set ((locked side).write here _ nofun) locked
  | leave side message status here =>
      have held := (locked side).sender.mp (by rw [here]; rfl)
      have idle := (locked side).not_reading (by rw [held]; nofun)
      exact forall_set ⟨⟨nofun, nofun⟩, ⟨fun busy => absurd idle busy, nofun⟩, nofun, nofun⟩ locked
  | enter side here free ready =>
      have idle := (locked side).not_sending (by rw [free]; nofun)
      refine forall_set ⟨⟨?_, nofun⟩, ⟨fun _ => rfl, nofun⟩, (locked side).small,
        (locked side).running⟩ locked
      intro busy
      dsimp only at busy
      rw [idle] at busy
      contradiction
  | pop side here ready =>
      have before := locked side
      exact forall_set ⟨before.sender, before.looper, before.small, before.running⟩ locked
  | drained side here empty =>
      have before := locked side
      have held := before.looper.mp (by rw [here]; nofun)
      exact forall_set ⟨before.sender, ⟨fun _ => held, nofun⟩, before.small, before.running⟩ locked
  | finish side here =>
      have before := locked side
      have held := before.looper.mp (by rw [here]; nofun)
      have idle := before.not_sending (by rw [held]; nofun)
      refine forall_set ⟨⟨?_, nofun⟩, ⟨fun busy => absurd rfl busy, nofun⟩, before.small,
        before.running⟩ locked
      intro busy
      dsimp only at busy
      rw [idle] at busy
      contradiction

theorem initial_locked (side : Side) : Locked (initial side) :=
  ⟨⟨nofun, nofun⟩, ⟨fun busy => absurd rfl busy, nofun⟩, nofun, nofun⟩

/-! ### Blocked senders -/

/-- After one end has changed, a sender is blocked for a reason of that end or of the
queue that it writes to. -/
theorem blocked_set {capacity : Side → Nat} {state : State} {side blocked : Side} {changed : End}
    (waits : Blocked capacity (state.set side changed) blocked) :
    (blocked = side ∧ (∃ message, changed.sending = some (message, .poll)) ∧
        capacity side ≤ state.outgoing side) ∨
      (blocked = side.other ∧ (∃ message, (state side.other).sending = some (message, .poll)) ∧
        capacity blocked ≤ changed.incoming) := by
  obtain ⟨polling, full⟩ := waits
  rcases eq_or_other blocked side with same | same
  · subst blocked
    rw [set_same] at polling
    rw [State.outgoing, set_other] at full
    exact Or.inl ⟨rfl, polling, full⟩
  · subst blocked
    rw [set_other] at polling
    rw [State.outgoing, other_other, set_same] at full
    exact Or.inr ⟨rfl, polling, full⟩

/-- A step that leaves the sender of its end out of poll and adds nothing to the queue
of its end blocks nobody. -/
private theorem blocked_unset {capacity : Side → Nat} {state : State} {side blocked : Side}
    {changed : End} (waits : Blocked capacity (state.set side changed) blocked)
    (fewer : changed.incoming ≤ (state side).incoming)
    (moving : ∀ message, changed.sending ≠ some (message, .poll) ∨
      (state side).sending = some (message, .poll)) :
    Blocked capacity state blocked := by
  rcases blocked_set waits with ⟨same, ⟨message, polling⟩, full⟩ | ⟨same, polling, full⟩
  · subst blocked
    rcases moving message with other | before
    · exact absurd polling other
    · exact ⟨⟨message, before⟩, full⟩
  · subst blocked
    refine ⟨polling, ?_⟩
    rw [State.outgoing, other_other]
    exact Nat.le_trans full fewer

/-- A sender becomes blocked only by its own sendmsg on a full queue. -/
theorem Transition.blocked {capacity : Side → Nat} {state next : State} {action : Action}
    (transition : Transition capacity state action next) (locked : ∀ side, Locked (state side))
    {blocked : Side} (waits : Blocked capacity next blocked) :
    Blocked capacity state blocked ∨
      (action = .write blocked ∧ (∃ message, (state blocked).sending = some (message, .sendmsg)) ∧
        capacity blocked ≤ state.outgoing blocked) := by
  cases transition with
  | send side message free idle small =>
      refine Or.inl (blocked_unset waits (Nat.le_refl _) ?_)
      intro other
      rw [Channel.enter_small small]
      exact Or.inl nofun
  | enqueue side message here space =>
      have bounded : message.size ≤ MaxBufferSize :=
        Nat.le_trans ((locked side).small message _ here) (by decide)
      rcases blocked_set waits with ⟨same, polling, full⟩ | ⟨same, ⟨other, polling⟩, full⟩
      · subst blocked
        refine Or.inl ⟨polling, ?_⟩
        rw [State.outgoing, other_other, set_same] at full
        rw [State.outgoing, other_other]
        exact full
      · rw [other_other, set_same, afterSendmsg_complete bounded] at polling
        cases polling
  | full side message here full =>
      rcases blocked_set waits with ⟨same, _, _⟩ | ⟨same, polling, others⟩
      · subst blocked
        exact Or.inr ⟨rfl, ⟨message, here⟩, full⟩
      · subst blocked
        refine Or.inl ⟨polling, ?_⟩
        rw [State.outgoing, other_other]
        exact others
  | retry side message here space =>
      exact Or.inl (blocked_unset waits (Nat.le_refl _) fun _ => Or.inl nofun)
  | leave side message status here =>
      exact Or.inl (blocked_unset waits (Nat.le_refl _) fun _ => Or.inl nofun)
  | enter side here free ready =>
      exact Or.inl (blocked_unset waits (Nat.le_refl _) fun _ => (Classical.em _).symm)
  | pop side here ready =>
      exact Or.inl (blocked_unset waits (Nat.sub_le _ _) fun _ => (Classical.em _).symm)
  | drained side here empty =>
      exact Or.inl (blocked_unset waits (Nat.le_refl _) fun _ => (Classical.em _).symm)
  | finish side here =>
      exact Or.inl (blocked_unset waits (Nat.le_refl _) fun _ => (Classical.em _).symm)

/-! ### Progress and deadlock -/

/-- At an end whose sender is not blocked, one of the two threads can go on. -/
theorem enabled_of_not_blocked {capacity : Side → Nat} {state : State} {side : Side}
    {message : Message}
    (small : message.size ≤ Channel.maxMessageSize) (locked : Locked (state side))
    (free : ¬ Blocked capacity state side) :
    ∃ action, (step capacity state action).isSome = true := by
  cases reading : (state side).reading with
  | recvmsg =>
      refine ⟨.read side, ?_⟩
      simp only [step, State.read, reading]
      split <;> rfl
  | returned =>
      refine ⟨.read side, ?_⟩
      simp only [step, State.read, reading]
      rfl
  | idle =>
      cases sending : (state side).sending with
      | none =>
          have unlocked : (state side).lock = none := by
            cases held : (state side).lock with
            | none => rfl
            | some holder =>
                cases holder with
                | sender =>
                    have busy := locked.sender.mpr held
                    rw [sending] at busy
                    contradiction
                | looper => exact absurd reading (locked.looper.mpr held)
          refine ⟨.send side message, ?_⟩
          simp only [step, State.send, unlocked, sending, small, and_self, if_true,
            Option.isSome_some]
      | some progress =>
          obtain ⟨current, point⟩ := progress
          refine ⟨.write side, ?_⟩
          cases point with
          | sendmsg =>
              simp only [step, State.write, sending]
              split <;> rfl
          | poll =>
              have space : state.outgoing side < capacity side := by
                apply Nat.lt_of_not_le
                intro full
                exact free ⟨⟨current, sending⟩, full⟩
              simp only [step, State.write, sending, space, if_true, Option.isSome_some]
          | returned status =>
              simp only [step, State.write, sending]
              rfl
          | aborted => exact absurd sending (locked.running current)

structure Flowing (capacity : Side → Nat) (state : State) : Prop where
  locked : ∀ side, Locked (state side)
  alone : ∀ side, Blocked capacity state side → ¬ Blocked capacity state side.other

theorem initial_flowing (capacity : Side → Nat) : Flowing capacity initial := by
  refine ⟨initial_locked, ?_⟩
  rintro side ⟨⟨message, polling⟩, _⟩
  contradiction

theorem Flowing.progress {capacity : Side → Nat} {state : State}
    (flowing : Flowing capacity state) : Progress capacity state := by
  rintro ⟨side, waits⟩
  obtain ⟨message, polling⟩ := waits.1
  exact enabled_of_not_blocked ((flowing.locked side).small message _ polling)
    (flowing.locked side.other) (flowing.alone side waits)

/-- A step after which the sender of the given end has become blocked started when the
other sender was not. -/
private theorem Transition.alone {capacity : Side → Nat} {state next : State} {action : Action}
    (transition : Transition capacity state action next) (flowing : Flowing capacity state)
    (waitsAlone : WaitsAlone capacity state action) {side : Side}
    (waits : Blocked capacity next side) (others : Blocked capacity next side.other) : False := by
  rcases transition.blocked flowing.locked waits with before | ⟨same, polling, full⟩
  · rcases transition.blocked flowing.locked others with also | ⟨same, polling, full⟩
    · exact flowing.alone side before also
    · subst action
      rw [WaitsAlone, other_other] at waitsAlone
      exact waitsAlone polling full before
  · subst action
    rcases transition.blocked flowing.locked others with before | ⟨twice, _⟩
    · exact waitsAlone polling full before
    · exact other_ne side (Action.write.inj twice).symm

theorem Transition.flowing {capacity : Side → Nat} {state next : State} {action : Action}
    (transition : Transition capacity state action next) (flowing : Flowing capacity state)
    (waitsAlone : WaitsAlone capacity state action) : Flowing capacity next :=
  ⟨transition.locked flowing.locked,
    fun _ waits others => transition.alone flowing waitsAlone waits others⟩

theorem deadlock {capacity : Side → Nat} {state : State} (side : Side)
    (locked : ∀ side, Locked (state side)) (waits : Blocked capacity state side)
    (others : Blocked capacity state side.other) : ¬ Progress capacity state := by
  have stuck : ∀ each, Blocked capacity state each := by
    intro each
    rcases eq_or_other each side with same | same
    · rw [same]
      exact waits
    · rw [same]
      exact others
  intro progress
  obtain ⟨action, enabled⟩ := progress ⟨side, waits⟩
  obtain ⟨next, stepped⟩ := Option.isSome_iff_exists.mp enabled
  have held : ∀ each, (state each).lock = some .sender := by
    intro each
    obtain ⟨⟨message, polling⟩, _⟩ := stuck each
    exact (locked each).sender.mp (by rw [polling]; rfl)
  have reading : ∀ each, (state each).reading = .idle := by
    intro each
    exact (locked each).not_reading (by rw [held each]; nofun)
  cases step_cases stepped with
  | send each message free idle small =>
      rw [held each] at free
      contradiction
  | enqueue each message here space => exact absurd (stuck each).2 (Nat.not_le_of_lt space)
  | full each message here full =>
      obtain ⟨⟨other, polling⟩, _⟩ := stuck each
      rw [polling] at here
      cases here
  | retry each message here space => exact absurd (stuck each).2 (Nat.not_le_of_lt space)
  | leave each message status here =>
      obtain ⟨⟨other, polling⟩, _⟩ := stuck each
      rw [polling] at here
      cases here
  | enter each here free ready =>
      rw [held each] at free
      contradiction
  | pop each here ready =>
      rw [reading each] at here
      contradiction
  | drained each here empty =>
      rw [reading each] at here
      contradiction
  | finish each here =>
      rw [reading each] at here
      contradiction

/-- The step that the guard forbids leaves both senders blocked. -/
theorem waits_for_blocked {capacity : Side → Nat} {state next : State} {action : Action}
    (flowing : Flowing capacity state) (forbidden : ¬ WaitsAlone capacity state action)
    (enabled : step capacity state action = some next) : ¬ Progress capacity next := by
  have transition := step_cases enabled
  have locked := transition.locked flowing.locked
  cases action with
  | write side =>
      simp only [WaitsAlone, not_forall, not_not] at forbidden
      obtain ⟨⟨message, here⟩, full, others⟩ := forbidden
      have same : next = state.set side { state side with
          sending := some (message, .poll) } := by
        change state.write capacity side = some next at enabled
        simp only [State.write, here, if_neg (Nat.not_lt_of_le full)] at enabled
        cases enabled
        rfl
      subst next
      refine deadlock side locked ⟨⟨message, ?_⟩, ?_⟩ ⟨?_, ?_⟩
      · rw [set_same]
      · rw [State.outgoing, set_other]
        exact full
      · rw [set_other]
        exact others.1
      · rw [State.outgoing, other_other, set_same]
        have queue := others.2
        rw [State.outgoing, other_other] at queue
        exact queue
  | _ => exact absurd trivial forbidden

/-- Along every run, a blocked sender leaves some thread able to go on exactly as long
as no sender runs into a full queue while the other end's sender is blocked. -/
theorem progress_iff (capacity : Side → Nat) (actions : List Action) :
    Always (step capacity) (Progress capacity) initial actions ↔
      Respects (step capacity) (WaitsAlone capacity) initial actions :=
  always_iff_respects (fun _ => True) (Flowing capacity)
    (fun _ _ _ flowing _ alone enabled => (step_cases enabled).flowing flowing alone)
    (fun _ flowing => flowing.progress)
    (fun _ _ _ flowing forbidden enabled => waits_for_blocked flowing forbidden enabled)
    (initial_flowing capacity) fun _ _ => trivial

/-- With one slot in each direction, both ends send one message and then a second. -/
def deadlockRun : List Action :=
  [.send .a (.oneByte []), .write .a, .write .a, .send .b (.oneByte []), .write .b, .write .b,
    .send .a (.oneByte []), .write .a, .send .b (.oneByte []), .write .b]

theorem both_senders_deadlock :
    (∃ final, run (step 1) initial deadlockRun = some final ∧
      ∀ side, Blocked 1 final side ∧ (final side).lock = some .sender) ∧
    ¬ Always (step 1) (Progress 1) initial deadlockRun := by
  have reached : ∃ final, run (step 1) initial deadlockRun = some final ∧
      ∀ side, Blocked 1 final side ∧ (final side).lock = some .sender := by
    refine ⟨_, rfl, fun side => ?_⟩
    cases side with
    | a => exact ⟨⟨⟨.oneByte [], rfl⟩, Nat.le_refl 1⟩, rfl⟩
    | b => exact ⟨⟨⟨.oneByte [], rfl⟩, Nat.le_refl 1⟩, rfl⟩
  refine ⟨reached, fun always => ?_⟩
  obtain ⟨final, performed, stuck⟩ := reached
  have locked : ∀ side, Locked (final side) :=
    run_preserves (fun _ _ _ locked enabled => (step_cases enabled).locked locked)
      initial_locked performed
  exact deadlock .a locked (stuck .a).1 (stuck .b).1 (always.final performed)

end CoreLib.Duplex
