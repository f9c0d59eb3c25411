/-
What holds over the whole life of a channel.

`Moves` lists the steps that only change the stack and `Transition` all others.  The
invariant has one part for the stack, one for the two flags, and one for the events.
Outside the few lines of `terminate` between the close and the two assignments, the
flags follow the handle; a closed handle stays closed, lets no operation succeed, and
accounts for exactly one event and at most one run of the termination callback.
-/

import CoreLib.ChannelLifecycle

set_option autoImplicit false

namespace CoreLib.ChannelLifecycle

open Foundation Socket

/-! ### What a step can do -/

inductive Moves (channel : Channel) : List Frame → List Frame → Prop where
  | connect (stack : List Frame) (user : userCode stack = true) :
      Moves channel stack (.connect :: stack)
  | send (message : Message) (stack : List Frame) (user : userCode stack = true)
      (small : message.size ≤ Channel.maxMessageSize) :
      Moves channel stack (.write message (WriteMessage.enter message) :: stack)
  | read (stack : List Frame) (user : userCode stack = true) :
      Moves channel stack (.read ReadMessages.enter :: stack)
  | terminate (stack : List Frame) (user : userCode stack = true) :
      Moves channel stack (.terminate :: stack)
  | destroy : Moves channel [] [.terminate, .destructor]
  | returns (frame : Frame) (rest : List Frame) (user : userCode (frame :: rest) = true) :
      Moves channel (frame :: rest) rest
  | sendmsg (message : Message) (result : SysResult) (rest : List Frame)
      (answers : Answers channel result) :
      Moves channel (.write message .sendmsg :: rest)
        (.write message (WriteMessage.afterSendmsg message result) :: rest)
  | poll (message : Message) (result : SysResult) (rest : List Frame)
      (answers : Answers channel result) :
      Moves channel (.write message .poll :: rest)
        (.write message (WriteMessage.afterPoll result) :: rest)
  | recvmsg (messages : List Message) (received : Received) (rest : List Frame)
      (answers : Answers channel received.result) :
      Moves channel (.read (.recvmsg messages) :: rest)
        (.read (ReadMessages.afterRecvmsg messages received) :: rest)
  | sendTerminates (message : Message) (rest : List Frame) :
      Moves channel (.write message (.returned .permanentFailure) :: rest)
        (.terminate :: .sendFails :: rest)
  | batch (status : Status) (messages : List Message) (rest : List Frame) :
      Moves channel (.read (.returned status messages) :: rest)
        (.dispatch status (if channel.messageReceivedCallback then messages else []) :: rest)
  | deliver (status : Status) (message : Message) (messages : List Message) (rest : List Frame)
      (installed : channel.messageReceivedCallback = true) :
      Moves channel (.dispatch status (message :: messages) :: rest)
        (.messageCallback :: .dispatch status messages :: rest)
  | readTerminates (rest : List Frame) :
      Moves channel (.dispatch .permanentFailure [] :: rest) (.terminate :: rest)
  | readReturns (status : Status) (rest : List Frame) (alive : status ≠ .permanentFailure) :
      Moves channel (.dispatch status [] :: rest) rest
  | alreadyClosed (rest : List Frame) (closed : channel.handle = -1) :
      Moves channel (.terminate :: rest) (.terminated false :: rest)

inductive Transition (state : State) : State → Prop where
  | abort : Transition state state.abort
  | moves (stack : List Frame) (moves : Moves state.channel state.stack stack) :
      Transition state (state.restack stack)
  | alreadyConnected (user : userCode state.stack = true)
      (connected : state.channel.connected = true) :
      Transition state (state.record (.connectReturned true))
  | setMessageReceivedCallback (installed : Bool) :
      Transition state
        { state with channel := { state.channel with messageReceivedCallback := installed } }
  | setTerminationCallback (installed : Bool) (user : userCode state.stack = true) :
      Transition state
        { state with channel := { state.channel with terminationCallback := installed } }
  | connect (result : SysResult) (rest : List Frame) (here : state.stack = .connect :: rest)
      (answers : Answers state.channel result) :
      Transition state (State.record
        { state with
          channel := { state.channel with connected := decide (result.rc = 0) }
          stack := rest }
        (.connectReturned (decide (result.rc = 0))))
  | sendReturns (message : Message) (status : Status) (rest : List Frame)
      (here : state.stack = .write message (.returned status) :: rest) :
      Transition state
        ((state.restack rest).record (.sendReturned (decide (status = .success))))
  | sendFails (rest : List Frame) (here : state.stack = .sendFails :: rest) :
      Transition state ((state.restack rest).record (.sendReturned false))
  | close (rest : List Frame) (here : state.stack = .terminate :: rest)
      (opened : state.channel.handle ≠ -1) :
      Transition state (state.closeHandle true (.terminated true :: rest))
  | destructorCloses (rest : List Frame) (here : state.stack = .destructor :: rest)
      (opened : state.channel.handle ≠ -1) :
      Transition state (state.closeHandle true (.destructor :: rest))
  | settle (closed : Bool) (rest : List Frame) (here : state.stack = .terminated closed :: rest) :
      Transition state (state.settle closed rest)
  | destroyed (rest : List Frame) (here : state.stack = .destructor :: rest)
      (closed : state.channel.handle = -1) :
      Transition state { state.restack rest with destroyed := true }

private theorem moves_of {state : State} {before after : List Frame}
    (here : state.stack = before) (moves : Moves state.channel before after) :
    Transition state (state.restack after) := by
  subst before
  exact .moves after moves

theorem call_cases {state next : State} {action : Action} (user : userCode state.stack = true)
    (enabled : state.call action = some next) : Transition state next := by
  cases action with
  | tryConnect =>
      simp only [State.call] at enabled
      split at enabled
      · rename_i connected
        cases enabled
        exact .alreadyConnected user connected
      · cases enabled
        exact .moves _ (.connect _ user)
  | sendMessage message =>
      simp only [State.call] at enabled
      split at enabled
      · rename_i small
        cases enabled
        exact .moves _ (.send message _ user small)
      · cases enabled
        exact .abort
  | readMessageOnHandle =>
      cases enabled
      exact .moves _ (.read _ user)
  | terminate =>
      cases enabled
      exact .moves _ (.terminate _ user)
  | destroy =>
      simp only [State.call] at enabled
      split at enabled
      · rename_i here
        cases enabled
        exact moves_of here .destroy
      · contradiction
  | setMessageReceivedCallback installed =>
      cases enabled
      exact .setMessageReceivedCallback installed
  | setTerminationCallback installed =>
      cases enabled
      exact .setTerminationCallback installed user
  | callbackReturns =>
      simp only [State.call] at enabled
      split at enabled
      · rename_i frame rest here
        cases enabled
        rw [here] at user
        exact moves_of here (.returns frame rest user)
      · contradiction
  | _ => contradiction

theorem proceed_cases {state next : State} (enabled : state.proceed = some next) :
    Transition state next := by
  unfold State.proceed at enabled
  split at enabled
  · rename_i message status rest here
    split at enabled
    · rename_i permanent
      subst status
      cases enabled
      exact moves_of here (.sendTerminates message rest)
    · cases enabled
      exact .sendReturns message status rest here
  · cases enabled
    exact .abort
  · rename_i rest here
    cases enabled
    exact .sendFails rest here
  · rename_i status messages rest here
    cases enabled
    exact moves_of here (.batch status messages rest)
  · cases enabled
    exact .abort
  · rename_i status message messages rest here
    split at enabled
    · rename_i installed
      cases enabled
      exact moves_of here (.deliver status message messages rest installed)
    · cases enabled
      exact .abort
  · rename_i status rest here
    split at enabled
    · rename_i permanent
      subst status
      cases enabled
      exact moves_of here (.readTerminates rest)
    · rename_i alive
      cases enabled
      exact moves_of here (.readReturns status rest alive)
  · rename_i rest here
    split at enabled
    · rename_i closed
      cases enabled
      exact moves_of here (.alreadyClosed rest closed)
    · contradiction
  · rename_i closed rest here
    cases enabled
    exact .settle closed rest here
  · rename_i rest here
    split at enabled
    · rename_i closed
      cases enabled
      exact .destroyed rest here closed
    · contradiction
  · contradiction

theorem answer_cases {state next : State} {action : Action}
    (enabled : state.answer action = some next) : Transition state next := by
  unfold State.answer at enabled
  split at enabled
  · rename_i result rest here
    split at enabled
    · rename_i answers
      cases enabled
      unfold State.connect
      split
      · exact .abort
      · exact .connect result rest here answers
    · contradiction
  · rename_i result message rest here
    split at enabled
    · rename_i answers
      cases enabled
      exact moves_of here (.sendmsg message result rest answers)
    · contradiction
  · rename_i result message rest here
    split at enabled
    · rename_i answers
      cases enabled
      exact moves_of here (.poll message result rest answers)
    · contradiction
  · rename_i received messages rest here
    split at enabled
    · rename_i answers
      cases enabled
      exact moves_of here (.recvmsg messages received rest answers)
    · contradiction
  · rename_i succeeds rest here
    split at enabled
    · contradiction
    · rename_i opened
      cases enabled
      cases succeeds with
      | true => exact .close rest here opened
      | false => exact .abort
  · rename_i succeeds rest here
    split at enabled
    · contradiction
    · rename_i opened
      cases enabled
      cases succeeds with
      | true => exact .destructorCloses rest here opened
      | false => exact .abort
  · contradiction

theorem step_cases {state next : State} {action : Action}
    (enabled : step state action = some next) : Transition state next := by
  unfold step at enabled
  split at enabled
  · contradiction
  · split at enabled
    · exact proceed_cases enabled
    · exact answer_cases enabled
    · exact answer_cases enabled
    · exact answer_cases enabled
    · exact answer_cases enabled
    · exact answer_cases enabled
    · split at enabled
      · rename_i user
        exact call_cases user enabled
      · contradiction

/-! ### The stack -/

def Frame.suspended : Frame → Bool
  | .sendFails => true
  | .dispatch .. => true
  | .messageCallback => true
  | .terminationCallback => true
  | .destructor => true
  | _ => false

def Frame.plain : Frame → Bool
  | .write .. => false
  | .destructor => false
  | _ => true

theorem Frame.ne_destructor {frame : Frame} (plain : frame.plain = true) :
    frame ≠ .destructor := by
  intro same
  rw [same] at plain
  contradiction

theorem Frame.ne_write {frame : Frame} (plain : frame.plain = true) (message : Message)
    (point : WritePoint) : frame ≠ .write message point := by
  intro same
  rw [same] at plain
  contradiction

/-- Not between the close and the two assignments of `terminate`. -/
def Outside (stack : List Frame) : Prop := ∀ closed rest, stack ≠ .terminated closed :: rest

/-- A writer on a closed handle cannot succeed, and the destructor outlives `terminate`
only once the handle is closed. -/
structure Stacked (handle : Int) (stack : List Frame) : Prop where
  suspended : ∀ frame ∈ stack.tail, frame.suspended = true
  writing : ∀ message point rest, stack = .write message point :: rest →
    message.size ≤ Channel.maxMessageSize ∧
      (handle = -1 → point = .sendmsg ∨ point = .returned .temporaryFailure)
  destroying : Frame.destructor ∈ stack → handle = -1 ∨ stack = [.terminate, .destructor]

theorem outside_of_top {stack rest : List Frame} {frame : Frame} (here : stack = frame :: rest)
    (other : ∀ closed, frame ≠ .terminated closed) : Outside stack := by
  intro closed more same
  rw [here] at same
  exact other closed (List.head_eq_of_cons_eq same)

theorem outside_of_user {stack : List Frame} (user : userCode stack = true) : Outside stack := by
  intro closed rest same
  rw [same] at user
  contradiction

theorem Stacked.outside_rest {handle : Int} {frame : Frame} {rest : List Frame}
    (stacked : Stacked handle (frame :: rest)) : Outside rest := by
  intro closed more same
  have waiting := stacked.suspended (.terminated closed) (by rw [same]; exact List.mem_cons_self ..)
  contradiction

theorem Stacked.pop {handle : Int} {frame : Frame} {rest : List Frame}
    (stacked : Stacked handle (frame :: rest)) (other : frame ≠ .terminate) :
    Stacked handle rest := by
  refine ⟨fun below member => stacked.suspended below (List.mem_of_mem_tail member), ?_, ?_⟩
  · intro message point more same
    have waiting := stacked.suspended (.write message point)
      (by rw [same]; exact List.mem_cons_self ..)
    contradiction
  · intro member
    rcases stacked.destroying (List.mem_cons_of_mem _ member) with closed | same
    · exact Or.inl closed
    · exact absurd (List.head_eq_of_cons_eq same) other

theorem Stacked.push {handle : Int} {stack : List Frame} (stacked : Stacked handle stack)
    (user : userCode stack = true) {frame : Frame} (other : frame ≠ .destructor)
    (writing : ∀ message point, frame = .write message point →
      message.size ≤ Channel.maxMessageSize ∧
        (handle = -1 → point = .sendmsg ∨ point = .returned .temporaryFailure)) :
    Stacked handle (frame :: stack) := by
  refine ⟨?_, fun message point rest same => writing message point (List.head_eq_of_cons_eq same),
    ?_⟩
  · intro below member
    cases stack with
    | nil => contradiction
    | cons top rest =>
        rcases List.mem_cons.mp member with same | deeper
        · subst below
          cases top with
          | messageCallback => rfl
          | terminationCallback => rfl
          | _ => contradiction
        · exact stacked.suspended below deeper
  · intro member
    rcases List.mem_cons.mp member with same | below
    · exact absurd same.symm other
    · rcases stacked.destroying below with closed | same
      · exact Or.inl closed
      · rw [same] at user
        contradiction

theorem Stacked.replace {handle : Int} {before after : Frame} {rest : List Frame}
    (stacked : Stacked handle (before :: rest)) (busy : before ≠ .terminate)
    (other : after ≠ .destructor)
    (writing : ∀ message point, after = .write message point →
      message.size ≤ Channel.maxMessageSize ∧
        (handle = -1 → point = .sendmsg ∨ point = .returned .temporaryFailure)) :
    Stacked handle (after :: rest) := by
  refine ⟨stacked.suspended, fun message point more same => writing message point
    (List.head_eq_of_cons_eq same), ?_⟩
  intro member
  rcases List.mem_cons.mp member with same | below
  · exact absurd same.symm other
  · rcases stacked.destroying (List.mem_cons_of_mem _ below) with closed | same
    · exact Or.inl closed
    · exact absurd (List.head_eq_of_cons_eq same) busy

theorem Stacked.push_plain {handle : Int} {stack : List Frame} (stacked : Stacked handle stack)
    (user : userCode stack = true) {frame : Frame} (plain : frame.plain = true) :
    Stacked handle (frame :: stack) := by
  apply stacked.push user (frame.ne_destructor plain)
  intro message point same
  exact absurd same (frame.ne_write plain message point)

theorem Stacked.replace_plain {handle : Int} {before after : Frame} {rest : List Frame}
    (stacked : Stacked handle (before :: rest)) (busy : before ≠ .terminate)
    (plain : after.plain = true) : Stacked handle (after :: rest) := by
  apply stacked.replace busy (after.ne_destructor plain)
  intro message point same
  exact absurd same (after.ne_write plain message point)

theorem Stacked.enter {handle : Int} {before above : Frame} {rest : List Frame}
    (stacked : Stacked handle (before :: rest)) (waits : before.suspended = true)
    (plain : above.plain = true) : Stacked handle (above :: before :: rest) := by
  refine ⟨?_, ?_, ?_⟩
  · intro below member
    rcases List.mem_cons.mp member with same | deeper
    · rw [same]
      exact waits
    · exact stacked.suspended below deeper
  · intro message point more same
    exact absurd (List.head_eq_of_cons_eq same) (above.ne_write plain message point)
  · intro member
    rcases List.mem_cons.mp member with same | below
    · exact absurd same.symm (above.ne_destructor plain)
    · rcases stacked.destroying below with closed | same
      · exact Or.inl closed
      · rw [List.head_eq_of_cons_eq same] at waits
        contradiction

theorem Moves.stacked {channel : Channel} {before after : List Frame}
    (moves : Moves channel before after) (stacked : Stacked channel.handle before) :
    Stacked channel.handle after := by
  cases moves with
  | connect _ user => exact stacked.push_plain user rfl
  | send message _ user small =>
      apply stacked.push user (by simp)
      intro other point same
      cases same
      have bounded : ¬ MaxBufferSize < message.size := by
        simp only [Channel.maxMessageSize] at small
        simp only [MaxBufferSize]
        omega
      exact ⟨small, fun _ => Or.inl (if_neg bounded)⟩
  | read _ user => exact stacked.push_plain user rfl
  | terminate _ user => exact stacked.push_plain user rfl
  | destroy =>
      refine ⟨?_, by simp, fun _ => Or.inr rfl⟩
      intro frame member
      rw [List.mem_singleton.mp member]
      rfl
  | returns frame _ user =>
      apply stacked.pop
      intro same
      rw [same] at user
      contradiction
  | sendmsg message result rest answers =>
      apply stacked.replace (by simp) (by simp)
      intro other point same
      cases same
      obtain ⟨small, _⟩ := stacked.writing message _ rest rfl
      refine ⟨small, fun closed => Or.inr ?_⟩
      rw [answers closed]
      exact afterSendmsg_EBADF (Nat.le_trans small (by decide))
  | poll message result rest answers =>
      apply stacked.replace (by simp) (by simp)
      intro other point same
      cases same
      obtain ⟨small, point⟩ := stacked.writing message _ rest rfl
      refine ⟨small, fun closed => ?_⟩
      rcases point closed with impossible | impossible
      · contradiction
      · contradiction
  | recvmsg messages received rest answers => exact stacked.replace_plain (by simp) rfl
  | sendTerminates message rest =>
      have waiting : Stacked channel.handle (.sendFails :: rest) :=
        stacked.replace_plain (by simp) rfl
      exact waiting.enter rfl rfl
  | batch status messages rest => exact stacked.replace_plain (by simp) rfl
  | deliver status message messages rest installed =>
      have waiting : Stacked channel.handle (.dispatch status messages :: rest) :=
        stacked.replace_plain (by simp) rfl
      exact waiting.enter rfl rfl
  | readTerminates rest => exact stacked.replace_plain (by simp) rfl
  | readReturns status rest alive => exact stacked.pop (by simp)
  | alreadyClosed rest closed =>
      exact ⟨stacked.suspended, by simp, fun _ => Or.inl closed⟩

theorem Moves.outside {channel : Channel} {before after : List Frame}
    (moves : Moves channel before after) : Outside before := by
  cases moves with
  | connect _ user => exact outside_of_user user
  | send message _ user small => exact outside_of_user user
  | read _ user => exact outside_of_user user
  | terminate _ user => exact outside_of_user user
  | returns frame _ user => exact outside_of_user user
  | _ => nofun

/-- A move enters the body of `terminate` only when the handle is closed already. -/
theorem Moves.outside_or {channel : Channel} {before after : List Frame}
    (moves : Moves channel before after) (stacked : Stacked channel.handle before) :
    Outside after ∨ channel.handle = -1 ∧ ∃ rest, after = .terminated false :: rest := by
  cases moves with
  | returns frame _ user => exact Or.inl stacked.outside_rest
  | readReturns status rest alive => exact Or.inl stacked.outside_rest
  | alreadyClosed rest closed => exact Or.inr ⟨closed, rest, rfl⟩
  | _ => exact Or.inl nofun

/-! ### The invariant -/

/-- `isConnected()` implies `isReady()`, and `isReady()` says that the handle is open. -/
structure Flags (channel : Channel) : Prop where
  connected : channel.connected = true → channel.ready = true
  ready : channel.ready = true ↔ channel.handle ≠ -1

theorem Flags.dead {channel : Channel} (flags : Flags channel) (closed : channel.handle = -1) :
    channel.ready = false ∧ channel.connected = false := by
  have ready : channel.ready = false := by
    apply Bool.eq_false_iff.mpr
    intro alive
    exact flags.ready.mp alive closed
  refine ⟨ready, Bool.eq_false_iff.mpr fun connected => ?_⟩
  have alive := flags.connected connected
  rw [ready] at alive
  contradiction

def Event.isClosed : Event → Bool
  | .closed _ => true
  | _ => false

/-- The run of the termination callback that `terminate` still owes. -/
def pending (state : State) : Nat :=
  match state.stack with
  | .terminated true :: _ => state.channel.terminationCallback.toNat
  | _ => 0

theorem pending_outside {state : State} (outside : Outside state.stack) : pending state = 0 := by
  unfold pending
  split
  · rename_i rest here
    exact absurd here (outside true rest)
  · rfl

structure Lifecycle (state : State) : Prop where
  stacked : Stacked state.channel.handle state.stack
  flags : Outside state.stack → Flags state.channel
  clearing : ∀ closed rest, state.stack = .terminated closed :: rest → state.channel.handle = -1
  closes : state.events.countP Event.isClosed = if state.channel.handle = -1 then 1 else 0
  callbacks : state.events.count .terminationCallback + pending state =
    state.events.count (.closed true)

theorem Created.lifecycle {channel : Channel} (created : Created channel) :
    Lifecycle (initial channel) := by
  have stacked : Stacked channel.handle [] := ⟨nofun, nofun, nofun⟩
  cases created with
  | named name handle positive =>
      have opened : handle ≠ -1 := by omega
      exact
        { stacked := stacked
          flags := fun _ => ⟨nofun, ⟨fun _ => opened, fun _ => rfl⟩⟩
          clearing := nofun
          closes := (if_neg opened).symm
          callbacks := rfl }
  | adopted handle positive =>
      have opened : handle ≠ -1 := by omega
      exact
        { stacked := stacked
          flags := fun _ => ⟨fun _ => rfl, ⟨fun _ => opened, fun _ => rfl⟩⟩
          clearing := nofun
          closes := (if_neg opened).symm
          callbacks := rfl }

/-- The accounts after a step that records `later`: the closes it records are those of the
handle, and the callbacks it records are paid from what was owed. -/
private theorem Lifecycle.later {state next : State} (lifecycle : Lifecycle state)
    (stacked : Stacked next.channel.handle next.stack)
    (flags : Outside next.stack → Flags next.channel)
    (clearing : ∀ closed rest, next.stack = .terminated closed :: rest →
      next.channel.handle = -1) {later : List Event}
    (events : next.events = state.events ++ later)
    (closes : (if state.channel.handle = -1 then 1 else 0) + later.countP Event.isClosed =
      if next.channel.handle = -1 then 1 else 0)
    (callbacks : later.count .terminationCallback + pending next =
      pending state + later.count (.closed true)) : Lifecycle next := by
  refine ⟨stacked, flags, clearing, ?_, ?_⟩
  · rw [events, List.countP_append, lifecycle.closes]
    exact closes
  · have before := lifecycle.callbacks
    rw [events, List.count_append, List.count_append]
    omega

private theorem Lifecycle.settled {state next : State} (lifecycle : Lifecycle state)
    (before : Outside state.stack) (after : Outside next.stack)
    (stacked : Stacked next.channel.handle next.stack) (flags : Flags next.channel)
    (handle : next.channel.handle = state.channel.handle) {later : List Event}
    (events : next.events = state.events ++ later)
    (plain : later.countP Event.isClosed = 0 ∧ later.count .terminationCallback = 0 ∧
      later.count (.closed true) = 0) : Lifecycle next := by
  refine lifecycle.later stacked (fun _ => flags)
    (fun closed rest here => absurd here (after closed rest)) events ?_ ?_
  · rw [plain.1, handle]
    rfl
  · rw [plain.2.1, plain.2.2, pending_outside before, pending_outside after]

theorem Transition.lifecycle {state next : State} (transition : Transition state next)
    (lifecycle : Lifecycle state) : Lifecycle next := by
  have stacked := lifecycle.stacked
  cases transition with
  | abort =>
      exact ⟨stacked, lifecycle.flags, lifecycle.clearing, lifecycle.closes, lifecycle.callbacks⟩
  | moves stack moves =>
      have before := moves.outside
      have flags := lifecycle.flags before
      rcases moves.outside_or stacked with after | ⟨closed, rest, same⟩
      · exact lifecycle.settled before after (moves.stacked stacked) flags rfl
          (List.append_nil _).symm ⟨rfl, rfl, rfl⟩
      · subst stack
        refine lifecycle.later (moves.stacked stacked)
          (fun outside => absurd rfl (outside false rest)) (fun _ _ _ => closed)
          (List.append_nil _).symm rfl ?_
        rw [pending_outside before]
        rfl
  | alreadyConnected user connected =>
      have before := outside_of_user user
      exact lifecycle.settled before before stacked (lifecycle.flags before) rfl rfl
        ⟨rfl, rfl, rfl⟩
  | setMessageReceivedCallback installed =>
      refine ⟨stacked, ?_, lifecycle.clearing, lifecycle.closes, lifecycle.callbacks⟩
      intro outside
      exact ⟨(lifecycle.flags outside).connected, (lifecycle.flags outside).ready⟩
  | setTerminationCallback installed user =>
      have before := outside_of_user user
      have flags := lifecycle.flags before
      exact lifecycle.settled before before stacked ⟨flags.connected, flags.ready⟩ rfl
        (List.append_nil _).symm ⟨rfl, rfl, rfl⟩
  | connect result rest here answers =>
      have before := outside_of_top here nofun
      rw [here] at stacked
      have flags := lifecycle.flags before
      refine lifecycle.settled before stacked.outside_rest (stacked.pop (by simp)) ?_ rfl rfl
        ⟨rfl, rfl, rfl⟩
      refine ⟨fun connected => flags.ready.mpr fun closed => ?_, flags.ready⟩
      have zero : result.rc = 0 := of_decide_eq_true connected
      rw [answers closed] at zero
      contradiction
  | sendReturns message status rest here =>
      have before := outside_of_top here nofun
      rw [here] at stacked
      exact lifecycle.settled before stacked.outside_rest (stacked.pop (by simp))
        (lifecycle.flags before) rfl rfl ⟨rfl, rfl, rfl⟩
  | sendFails rest here =>
      have before := outside_of_top here nofun
      rw [here] at stacked
      exact lifecycle.settled before stacked.outside_rest (stacked.pop (by simp))
        (lifecycle.flags before) rfl rfl ⟨rfl, rfl, rfl⟩
  | close rest here opened =>
      have before := outside_of_top here nofun
      rw [here] at stacked
      refine lifecycle.later ⟨stacked.suspended, nofun, fun _ => Or.inl rfl⟩
        (fun outside => absurd rfl (outside true rest)) (fun _ _ _ => rfl) rfl ?_ ?_
      · rw [if_neg opened]
        rfl
      · rw [pending_outside before]
        change List.count _ [Event.closed state.channel.terminationCallback] +
          state.channel.terminationCallback.toNat = _
        cases state.channel.terminationCallback <;> rfl
  | destructorCloses rest here opened =>
      rcases stacked.destroying (by rw [here]; exact List.mem_cons_self ..) with closed | same
      · exact absurd closed opened
      · rw [here] at same
        cases same
  | settle closed rest here =>
      have gone := lifecycle.clearing closed rest here
      rw [here] at stacked
      have flags : Flags { state.channel with
          connected := false
          ready := false } := ⟨nofun, ⟨nofun, fun opened => absurd gone opened⟩⟩
      unfold State.settle
      split
      · rename_i owed
        obtain ⟨isClosed, installed⟩ := (Bool.and_eq_true _ _).mp owed
        subst closed
        have one : pending state = 1 := by
          rw [pending, here]
          exact congrArg Bool.toNat installed
        refine lifecycle.later (stacked.replace_plain (by simp) rfl) (fun _ => flags) nofun rfl
          rfl ?_
        rw [one]
        rfl
      · rename_i nothing
        have none_ : pending state = 0 := by
          rw [pending, here]
          cases closed with
          | false => rfl
          | true =>
              cases installed : state.channel.terminationCallback with
              | false => rfl
              | true =>
                  rw [installed] at nothing
                  exact absurd rfl nothing
        refine lifecycle.later (stacked.pop (by simp)) (fun _ => flags)
          (fun other more same => absurd same (stacked.outside_rest other more))
          (List.append_nil _).symm rfl ?_
        rw [none_, pending_outside stacked.outside_rest]
        rfl
  | destroyed rest here closed =>
      have before := outside_of_top here nofun
      rw [here] at stacked
      exact lifecycle.settled before stacked.outside_rest (stacked.pop (by simp))
        (lifecycle.flags before) rfl (List.append_nil _).symm ⟨rfl, rfl, rfl⟩

/-! ### After the close -/

def Event.isQuiet : Event → Bool
  | .connectReturned result => !result
  | .sendReturned result => !result
  | .closed _ => false
  | .terminationCallback => true

theorem Transition.quiet {state next : State} (transition : Transition state next)
    (lifecycle : Lifecycle state) (closed : state.channel.handle = -1) :
    next.channel.handle = -1 ∧ ∃ later, next.events = state.events ++ later ∧
      ∀ event ∈ later, event.isQuiet = true := by
  cases transition with
  | alreadyConnected user connected =>
      have dead := (lifecycle.flags (outside_of_user user)).dead closed
      rw [connected] at dead
      exact absurd dead.2 nofun
  | connect result rest here answers =>
      refine ⟨closed, [.connectReturned false], ?_, ?_⟩
      · have failed : decide (result.rc = 0) = false := by
          rw [answers closed]
          rfl
        change state.events ++ [Event.connectReturned (decide (result.rc = 0))] = _
        rw [failed]
      · exact List.forall_mem_singleton.mpr rfl
  | sendReturns message status rest here =>
      refine ⟨closed, [.sendReturned false], ?_, ?_⟩
      · obtain ⟨_, point⟩ := lifecycle.stacked.writing message _ rest here
        rcases point closed with same | same
        · contradiction
        · cases same
          rfl
      · exact List.forall_mem_singleton.mpr rfl
  | sendFails rest here =>
      exact ⟨closed, [.sendReturned false], rfl, List.forall_mem_singleton.mpr rfl⟩
  | close rest here opened => exact absurd closed opened
  | destructorCloses rest here opened => exact absurd closed opened
  | settle isClosed rest here =>
      unfold State.settle
      split
      · exact ⟨closed, [.terminationCallback], rfl, List.forall_mem_singleton.mpr rfl⟩
      · exact ⟨closed, [], (List.append_nil _).symm, nofun⟩
  | _ => exact ⟨closed, [], (List.append_nil _).symm, nofun⟩

/-- However the run goes on, the handle stays closed, the flags stay false, and no
operation succeeds. -/
def Dead (state : State) : Prop :=
  ∀ actions final, run step state actions = some final →
    final.channel.handle = -1 ∧
      (Outside final.stack → final.channel.ready = false ∧ final.channel.connected = false) ∧
      ∃ later, final.events = state.events ++ later ∧ ∀ event ∈ later, event.isQuiet = true

structure DeadSince (start state : State) : Prop where
  lifecycle : Lifecycle state
  closed : state.channel.handle = -1
  quiet : ∃ later, state.events = start.events ++ later ∧
    ∀ event ∈ later, event.isQuiet = true

theorem Transition.deadSince {start state next : State} (transition : Transition state next)
    (dead : DeadSince start state) : DeadSince start next := by
  obtain ⟨earlier, events, quiet⟩ := dead.quiet
  obtain ⟨still, later, more, alsoQuiet⟩ := transition.quiet dead.lifecycle dead.closed
  refine ⟨transition.lifecycle dead.lifecycle, still, earlier ++ later, ?_, ?_⟩
  · rw [more, events, List.append_assoc]
  · intro event member
    rcases List.mem_append.mp member with old | new
    · exact quiet event old
    · exact alsoQuiet event new

theorem Lifecycle.dead {state : State} (lifecycle : Lifecycle state)
    (closed : state.channel.handle = -1) : Dead state := by
  intro actions final performed
  have reached : DeadSince state final :=
    run_preserves (fun _ _ _ dead enabled => (step_cases enabled).deadSince dead)
      ⟨lifecycle, closed, [], (List.append_nil _).symm, nofun⟩ performed
  exact ⟨reached.closed, fun outside => (reached.lifecycle.flags outside).dead reached.closed,
    reached.quiet⟩

/-- The flags follow the handle, a closed handle is closed once and for ever, and the
termination callback runs once for a close that finds one installed. -/
theorem channel_lifecycle {channel : Channel} (created : Created channel) {state : State}
    {actions : List Action} (performed : run step (initial channel) actions = some state) :
    (Outside state.stack →
      (state.channel.connected = true → state.channel.ready = true) ∧
      (state.channel.ready = true ↔ state.channel.handle ≠ -1) ∧
      state.events.count .terminationCallback = state.events.count (.closed true)) ∧
    (state.channel.handle = -1 → Dead state) ∧
    state.events.countP Event.isClosed = if state.channel.handle = -1 then 1 else 0 := by
  have lifecycle : Lifecycle state :=
    run_preserves (fun _ _ _ lifecycle enabled => (step_cases enabled).lifecycle lifecycle)
      created.lifecycle performed
  refine ⟨fun outside => ?_, lifecycle.dead, lifecycle.closes⟩
  have flags := lifecycle.flags outside
  have callbacks := lifecycle.callbacks
  rw [pending_outside outside] at callbacks
  exact ⟨flags.connected, flags.ready, callbacks⟩

/-- The peer is gone when the channel sends; the termination callback sends again. -/
def sampleRun : List Action :=
  [.setTerminationCallback true, .sendMessage .empty, .sendmsg (.failure .EPIPE), .proceed,
    .close true, .proceed, .sendMessage .empty, .sendmsg (.failure .EBADF), .proceed,
    .callbackReturns, .proceed, .tryConnect, .connect (.failure .EBADF)]

theorem channel_lifecycle_sampleRun :
    ∃ state, run step (initial (Channel.adopted 3)) sampleRun = some state ∧
      state.events = [.closed true, .terminationCallback, .sendReturned false,
        .sendReturned false, .connectReturned false] ∧ Dead state := by
  obtain ⟨state, performed, events, closed⟩ :
      ∃ state, run step (initial (Channel.adopted 3)) sampleRun = some state ∧
        state.events = [.closed true, .terminationCallback, .sendReturned false,
          .sendReturned false, .connectReturned false] ∧ state.channel.handle = -1 :=
    ⟨_, rfl, rfl, rfl⟩
  have lifecycle := channel_lifecycle (.adopted 3 (by decide)) performed
  exact ⟨state, performed, events, lifecycle.2.1 closed⟩

end CoreLib.ChannelLifecycle
