/-
What a channel dispatches after it has terminated.

`readMessageOnHandle` reads a whole batch and then hands its messages to the callback
one by one.  A callback may terminate the channel; the loop goes on with the rest of its
batch, as its comment about dispatching all successfully read messages says.  Nothing
else is dispatched on a closed handle, since nothing can be read from it.
-/

import CoreLib.ChannelLifecycleInvariant

set_option autoImplicit false

namespace CoreLib.ChannelLifecycle

open Foundation Socket

def handed (state : State) : Action → List Message
  | .proceed =>
      match state.stack with
      | .dispatch _ (message :: _) :: _ =>
          if state.channel.messageReceivedCallback then [message] else []
      | _ => []
  | _ => []

def dispatches : State → List Action → List Message
  | _, [] => []
  | state, action :: rest =>
      match step state action with
      | none => []
      | some next => handed state action ++ dispatches next rest

/-- The messages of the batches whose dispatch is under way. -/
def undelivered : List Frame → List Message
  | [] => []
  | .dispatch _ messages :: rest => messages ++ undelivered rest
  | _ :: rest => undelivered rest

def collected : ReadPoint → List Message
  | .recvmsg messages => messages
  | .returned _ messages => messages
  | .aborted => []

/-! ### Reads on a closed handle -/

def EmptyHanded (state : State) : Prop :=
  state.channel.handle = -1 → ∀ point rest, state.stack = .read point :: rest →
    collected point = []

theorem afterRecvmsg_EBADF {received : Received} (closed : received.result = .failure .EBADF)
    (messages : List Message) :
    ReadMessages.afterRecvmsg messages received = .returned .temporaryFailure messages := by
  simp [ReadMessages.afterRecvmsg, closed, SysResult.failure, SysResult.Interrupted]

theorem Stacked.rest_not_read {handle : Int} {frame : Frame} {rest more : List Frame}
    {point : ReadPoint} (stacked : Stacked handle (frame :: rest)) :
    rest ≠ .read point :: more := by
  intro same
  have waiting := stacked.suspended (.read point) (by rw [same]; exact List.mem_cons_self ..)
  contradiction

theorem Moves.emptyHanded {channel : Channel} {before after : List Frame}
    (moves : Moves channel before after) (stacked : Stacked channel.handle before)
    (closed : channel.handle = -1)
    (empty : ∀ point rest, before = .read point :: rest → collected point = [])
    {point : ReadPoint} {rest : List Frame} (here : after = .read point :: rest) :
    collected point = [] := by
  cases moves with
  | read _ user =>
      cases here
      rfl
  | recvmsg messages received more answers =>
      cases here
      rw [afterRecvmsg_EBADF (answers closed)]
      exact empty (.recvmsg messages) rest rfl
  | returns frame _ user => exact absurd here stacked.rest_not_read
  | readReturns status _ alive => exact absurd here stacked.rest_not_read
  | _ => cases here

theorem Transition.emptyHanded {state next : State} (transition : Transition state next)
    (lifecycle : Lifecycle state) (empty : EmptyHanded state) : EmptyHanded next := by
  have stacked := lifecycle.stacked
  intro closed point rest here
  cases transition with
  | abort => exact empty closed point rest here
  | moves stack moves => exact moves.emptyHanded stacked closed (empty closed) here
  | alreadyConnected user connected => exact empty closed point rest here
  | setMessageReceivedCallback installed => exact empty closed point rest here
  | setTerminationCallback installed user => exact empty closed point rest here
  | connect result more top answers =>
      rw [top] at stacked
      exact absurd here stacked.rest_not_read
  | sendReturns message status more top =>
      rw [top] at stacked
      exact absurd here stacked.rest_not_read
  | sendFails more top =>
      rw [top] at stacked
      exact absurd here stacked.rest_not_read
  | close more top opened =>
      change Frame.terminated true :: more = _ at here
      cases here
  | destructorCloses more top opened =>
      change Frame.destructor :: more = _ at here
      cases here
  | settle isClosed more top =>
      rw [top] at stacked
      unfold State.settle at here
      split at here
      · change Frame.terminationCallback :: more = _ at here
        cases here
      · exact absurd here stacked.rest_not_read
  | destroyed more top closed =>
      rw [top] at stacked
      exact absurd here stacked.rest_not_read

/-! ### One step after the termination -/

theorem settle_undelivered (state : State) (closed : Bool) (rest : List Frame) :
    undelivered (state.settle closed rest).stack = undelivered rest := by
  unfold State.settle
  split
  · rfl
  · rfl

theorem proceed_undelivered {state next : State} (closed : state.channel.handle = -1)
    (empty : EmptyHanded state) (enabled : state.proceed = some next) :
    undelivered state.stack = handed state .proceed ++ undelivered next.stack := by
  unfold State.proceed at enabled
  unfold handed
  split at enabled
  · rename_i message status rest here
    split at enabled
    · cases enabled
      simp [here, undelivered, State.restack]
    · cases enabled
      simp [here, undelivered, State.restack, State.record]
  · rename_i message rest here
    cases enabled
    simp [here, State.abort]
  · rename_i rest here
    cases enabled
    simp [here, undelivered, State.restack, State.record]
  · rename_i status messages rest here
    -- a batch that was read on a closed handle is empty
    have nothing : messages = [] := empty closed (.returned status messages) rest here
    cases enabled
    simp [here, nothing, undelivered, State.restack]
  · rename_i rest here
    cases enabled
    simp [here, State.abort]
  · rename_i status message messages rest here
    split at enabled
    · rename_i installed
      cases enabled
      simp [here, installed, undelivered, State.restack]
    · rename_i missing
      cases enabled
      simp [here, missing, State.abort]
  · rename_i status rest here
    split at enabled
    · cases enabled
      simp [here, undelivered, State.restack]
    · cases enabled
      simp [here, undelivered, State.restack]
  · rename_i rest here
    rw [if_pos closed] at enabled
    cases enabled
    simp [here, undelivered, State.restack]
  · rename_i isClosed rest here
    cases enabled
    simp [here, undelivered, settle_undelivered]
  · rename_i rest here
    rw [if_pos closed] at enabled
    cases enabled
    simp [here, undelivered, State.restack]
  · contradiction

theorem answer_undelivered {state next : State} {action : Action}
    (closed : state.channel.handle = -1) (enabled : state.answer action = some next) :
    undelivered state.stack = undelivered next.stack := by
  unfold State.answer at enabled
  split at enabled
  · rename_i result rest here
    split at enabled
    · cases enabled
      unfold State.connect
      split
      · rfl
      · simp [here, undelivered, State.record]
    · contradiction
  · rename_i result message rest here
    split at enabled
    · cases enabled
      simp [here, undelivered, State.restack]
    · contradiction
  · rename_i result message rest here
    split at enabled
    · cases enabled
      simp [here, undelivered, State.restack]
    · contradiction
  · rename_i received messages rest here
    split at enabled
    · cases enabled
      simp [here, undelivered, State.restack]
    · contradiction
  · rw [if_pos closed] at enabled
    contradiction
  · rw [if_pos closed] at enabled
    contradiction
  · contradiction

theorem call_undelivered {state next : State} {action : Action}
    (user : userCode state.stack = true) (enabled : state.call action = some next) :
    undelivered state.stack = undelivered next.stack := by
  cases action with
  | tryConnect =>
      simp only [State.call] at enabled
      split at enabled
      · cases enabled
        rfl
      · cases enabled
        rfl
  | sendMessage message =>
      simp only [State.call] at enabled
      split at enabled
      · cases enabled
        rfl
      · cases enabled
        rfl
  | readMessageOnHandle =>
      cases enabled
      rfl
  | terminate =>
      cases enabled
      rfl
  | destroy =>
      simp only [State.call] at enabled
      split at enabled
      · rename_i here
        cases enabled
        simp [here, undelivered, State.restack]
      · contradiction
  | setMessageReceivedCallback installed =>
      cases enabled
      rfl
  | setTerminationCallback installed =>
      cases enabled
      rfl
  | callbackReturns =>
      simp only [State.call] at enabled
      split at enabled
      · rename_i frame rest here
        cases enabled
        rw [here] at user ⊢
        cases frame with
        | messageCallback => rfl
        | terminationCallback => rfl
        | _ => contradiction
      · contradiction
  | _ => contradiction

/-- What is waiting before a step is what the step hands out and what waits after it. -/
theorem step_undelivered {state next : State} {action : Action}
    (closed : state.channel.handle = -1) (empty : EmptyHanded state)
    (enabled : step state action = some next) :
    undelivered state.stack = handed state action ++ undelivered next.stack := by
  unfold step at enabled
  split at enabled
  · contradiction
  · split at enabled
    · exact proceed_undelivered closed empty enabled
    · exact answer_undelivered closed enabled
    · exact answer_undelivered closed enabled
    · exact answer_undelivered closed enabled
    · exact answer_undelivered closed enabled
    · exact answer_undelivered closed enabled
    · rename_i unlike _ _ _ _ _
      split at enabled
      · rename_i user
        have silent : handed state action = [] := by
          cases action with
          | proceed => exact absurd rfl unlike
          | _ => rfl
        rw [silent]
        exact call_undelivered user enabled
      · contradiction

/-! ### Every run -/

structure Reached (state : State) : Prop where
  lifecycle : Lifecycle state
  empty : EmptyHanded state

theorem Reached.onward {state next : State} {action : Action} (reached : Reached state)
    (enabled : step state action = some next) : Reached next :=
  { lifecycle := (step_cases enabled).lifecycle reached.lifecycle
    empty := (step_cases enabled).emptyHanded reached.lifecycle reached.empty }

theorem Created.reached {channel : Channel} (created : Created channel) {state : State}
    {actions : List Action} (performed : run step (initial channel) actions = some state) :
    Reached state :=
  run_preserves (fun _ _ _ reached enabled => reached.onward enabled)
    ⟨created.lifecycle, fun _ _ _ impossible => nomatch impossible⟩ performed

theorem Reached.dispatches_undelivered {state final : State} {actions : List Action}
    (reached : Reached state) (closed : state.channel.handle = -1)
    (performed : run step state actions = some final) :
    undelivered state.stack = dispatches state actions ++ undelivered final.stack := by
  induction actions generalizing state with
  | nil =>
      cases performed
      rfl
  | cons action rest ih =>
      obtain ⟨next, enabled, remaining⟩ := run_cons_some performed
      have still := ((step_cases enabled).quiet reached.lifecycle closed).1
      have later := ih (reached.onward enabled) still remaining
      simp only [dispatches, enabled]
      rw [step_undelivered closed reached.empty enabled, later, List.append_assoc]

/-- Once the handle of a channel is closed, the messages handed to its callback are, in
order and each once, those that were already waiting in batches under dispatch. -/
theorem dispatches_rest_of_batches {channel : Channel} (created : Created channel)
    {before after : List Action} {state final : State}
    (performed : run step (initial channel) before = some state)
    (closed : state.channel.handle = -1) (continued : run step state after = some final) :
    undelivered state.stack = dispatches state after ++ undelivered final.stack :=
  (created.reached performed).dispatches_undelivered closed continued

def onePacket (byte : UInt8) : Received :=
  { result := ⟨1, .other 0⟩
    buffer := [byte]
    control := []
    truncated := false
    nullHeader := .dereferenced }

/-- Two packets are read, and the callback of the first message terminates the channel. -/
def terminatingCallback : List Action :=
  [.setMessageReceivedCallback true, .setTerminationCallback true, .readMessageOnHandle,
    .recvmsg (onePacket 1), .recvmsg (onePacket 2), .recvmsg (.nothing (.failure .EAGAIN)),
    .proceed, .proceed, .terminate, .close true, .proceed, .callbackReturns, .callbackReturns]

theorem dispatches_rest_of_batches_terminatingCallback :
    ∃ state final, run step (initial (Channel.adopted 3)) terminatingCallback = some state ∧
      state.channel.handle = -1 ∧ run step state [.proceed] = some final ∧
      undelivered state.stack = dispatches state [.proceed] ++ undelivered final.stack := by
  obtain ⟨state, final, performed, closed, continued⟩ :
      ∃ state final, run step (initial (Channel.adopted 3)) terminatingCallback = some state ∧
        state.channel.handle = -1 ∧ run step state [.proceed] = some final :=
    ⟨_, _, rfl, rfl, rfl⟩
  exact ⟨state, final, performed, closed, continued,
    dispatches_rest_of_batches (.adopted 3 (by decide)) performed closed continued⟩

/-- The second message is dispatched after the termination callback has run. -/
theorem message_after_termination :
    ¬ ∀ channel, Created channel → ∀ actions state action next,
      run step (initial channel) actions = some state →
      Event.terminationCallback ∈ state.events → step state action = some next →
      handed state action = [] := by
  intro last
  obtain ⟨state, next, performed, terminated, contents, enabled⟩ :
      ∃ state next, run step (initial (Channel.adopted 3)) terminatingCallback = some state ∧
        Event.terminationCallback ∈ state.events ∧
        (handed state .proceed).map Message.contents = [[2]] ∧
        step state .proceed = some next :=
    ⟨_, _, rfl, by decide, rfl, rfl⟩
  have nothing := last _ (.adopted 3 (by decide)) _ state .proceed next performed terminated
    enabled
  rw [nothing] at contents
  contradiction

end CoreLib.ChannelLifecycle
