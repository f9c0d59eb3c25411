/-
A looper that reads any number of channels.

Each channel is the receiving end of a link whose sender is another thread or process.  The
looper is in the reader of a channel from the `wait` that returns its source to the end of
`readMessageOnHandle`, and what the reader does there is interleaved with everything else.
Timers, servers and the looper's own trivial source are other sources, whose readers do
nothing but what happens between two calls of `wait`.  All numbers are in use from the
start and none is given out again.
-/

import CoreLib.LooperFairness
import CoreLib.RendezvousDelivery

set_option autoImplicit false

namespace CoreLib.ChannelLooper

open Foundation Delivery Rendezvous

inductive Source (Id Other : Type) where
  | channel (id : Id)
  | other (other : Other)
deriving DecidableEq

structure State (Id Other : Type) where
  looper : LooperFairness.State (Source Id Other)
  links : Id → Delivery.State
  /-- The channel whose reader runs. -/
  reading : Option Id

inductive Action (Id Other : Type) where
  | transfer (id : Id) (moved : Delivery.Action)
  | scheduleInLooper (id : Id)
  | unscheduleFromLooper (id : Id)
  | signal (other : Other)
  | drain (other : Other)
  | closeNumber (other : Other)
  | addSource (other : Other)
  | removeSource (other : Other)
  /-- `loop` calls `wait` and the reader of the source that it returns. -/
  | wait

def readable (link : Delivery.State) : Bool :=
  decide (link.receiver.handle ≠ -1) &&
    (!link.queue.isEmpty || decide (link.sender.handle = -1))

theorem readable_iff {link : Delivery.State} :
    readable link = true ↔
      link.receiver.handle ≠ -1 ∧ (link.queue ≠ [] ∨ link.sender.handle = -1) := by
  simp [readable]

def leaves : Delivery.Action → Bool
  | .readReturns => true
  | _ => false

variable {Id Other : Type} [DecidableEq Id] [DecidableEq Other]

def start (links : Id → Delivery.State) : State Id Other :=
  { looper := LooperFairness.initial fun _ => true
    links := links
    reading := none }

def poll (handle : Source Id Other → Int) (id : Id) (link : Delivery.State) :
    LooperFairness.Action (Source Id Other) :=
  if link.receiver.handle = -1 then .closeNumber (handle (.channel id))
  else if readable link then .signal (handle (.channel id))
  else .drain (handle (.channel id))

namespace State

variable (handle : Source Id Other → Int) (state : State Id Other)

def perform (moved : LooperFairness.Action (Source Id Other)) : Option (State Id Other) :=
  (LooperFairness.step handle state.looper moved).map fun looper =>
    { state with looper := looper }

/-- A step of a link; the reader's are those of `loop`. -/
def transfer (id : Id) (moved : Delivery.Action) : Option (State Id Other) :=
  if ofSender moved = false ∧ state.reading ≠ some id then none
  else
    (Delivery.step (state.links id) moved).bind fun link =>
      (LooperFairness.step handle state.looper (poll handle id link)).map fun looper =>
        { looper := looper
          links := Function.update state.links id link
          reading := if leaves moved then none else state.reading }

def scheduleInLooper (id : Id) : Option (State Id Other) :=
  if (state.links id).receiver.connected then state.perform handle (.addSource (.channel id))
  else some state

def unscheduleFromLooper (id : Id) : Option (State Id Other) :=
  state.perform handle (.removeSource (.channel id))

def wait : Option (State Id Other) :=
  match state.reading with
  | some _ => none
  | none =>
      (state.looper.wait handle).bind fun returned =>
        let looper := { returned.2 with
          dispatched := state.looper.dispatched ++ [returned.1] }
        match returned.1 with
        | .other _ => some { state with looper := looper }
        | .channel id =>
            (Delivery.step (state.links id) .read).map fun link =>
              { looper := looper
                links := Function.update state.links id link
                reading := some id }

end State

def step (handle : Source Id Other → Int) (state : State Id Other) :
    Action Id Other → Option (State Id Other)
  | .transfer id moved => state.transfer handle id moved
  | .scheduleInLooper id => state.scheduleInLooper handle id
  | .unscheduleFromLooper id => state.unscheduleFromLooper handle id
  | .signal other => state.perform handle (.signal (handle (.other other)))
  | .drain other => state.perform handle (.drain (handle (.other other)))
  | .closeNumber other => state.perform handle (.closeNumber (handle (.other other)))
  | .addSource other => state.perform handle (.addSource (.other other))
  | .removeSource other => state.perform handle (.removeSource (.other other))
  | .wait => state.wait handle

/-! ### What a step can do -/

/-- The calls that concern only the wait set and the descriptors of other sources. -/
def ofWaitSet (handle : Source Id Other → Int) :
    Action Id Other → Option (LooperFairness.Action (Source Id Other))
  | .scheduleInLooper id => some (.addSource (.channel id))
  | .unscheduleFromLooper id => some (.removeSource (.channel id))
  | .signal other => some (.signal (handle (.other other)))
  | .drain other => some (.drain (handle (.other other)))
  | .closeNumber other => some (.closeNumber (handle (.other other)))
  | .addSource other => some (.addSource (.other other))
  | .removeSource other => some (.removeSource (.other other))
  | .transfer _ _ => none
  | .wait => none

inductive Transition (handle : Source Id Other → Int) (state : State Id Other) :
    Action Id Other → State Id Other → Prop where
  | transfers (id : Id) (moved : Delivery.Action) (link : Delivery.State)
      (looper : LooperFairness.State (Source Id Other))
      (turn : ofSender moved = true ∨ state.reading = some id)
      (enabled : Delivery.step (state.links id) moved = some link)
      (polled : LooperFairness.step handle state.looper (poll handle id link) = some looper) :
      Transition handle state (.transfer id moved)
        { looper := looper
          links := Function.update state.links id link
          reading := if leaves moved then none else state.reading }
  | changes (action : Action Id Other) (moved : LooperFairness.Action (Source Id Other))
      (looper : LooperFairness.State (Source Id Other))
      (asked : ofWaitSet handle action = some moved)
      (enabled : LooperFairness.step handle state.looper moved = some looper) :
      Transition handle state action { state with looper := looper }
  | refuses (id : Id) : Transition handle state (.scheduleInLooper id) state
  | dispatches (other : Other) (looper : LooperFairness.State (Source Id Other))
      (free : state.reading = none)
      (enabled : LooperFairness.step handle state.looper .dispatch = some looper)
      (last : looper.dispatched = state.looper.dispatched ++ [.other other]) :
      Transition handle state .wait { state with looper := looper }
  | enters (id : Id) (link : Delivery.State) (looper : LooperFairness.State (Source Id Other))
      (free : state.reading = none)
      (enabled : LooperFairness.step handle state.looper .dispatch = some looper)
      (last : looper.dispatched = state.looper.dispatched ++ [.channel id])
      (entered : Delivery.step (state.links id) .read = some link) :
      Transition handle state .wait
        { looper := looper
          links := Function.update state.links id link
          reading := some id }

variable {handle : Source Id Other → Int} {state next : State Id Other}
  {action : Action Id Other}

theorem perform_cases {moved : LooperFairness.Action (Source Id Other)}
    (asked : ofWaitSet handle action = some moved)
    (enabled : state.perform handle moved = some next) :
    Transition handle state action next := by
  obtain ⟨looper, performed, same⟩ := Option.map_eq_some_iff.mp enabled
  subst next
  exact .changes action moved looper asked performed

theorem transfer_cases {id : Id} {moved : Delivery.Action}
    (enabled : state.transfer handle id moved = some next) :
    Transition handle state (.transfer id moved) next := by
  unfold State.transfer at enabled
  split at enabled
  · contradiction
  · rename_i turn
    obtain ⟨link, moves, rest⟩ := Option.bind_eq_some_iff.mp enabled
    obtain ⟨looper, polled, same⟩ := Option.map_eq_some_iff.mp rest
    subst next
    refine .transfers id moved link looper ?_ moves polled
    by_cases side : ofSender moved = true
    · exact Or.inl side
    · rw [Bool.not_eq_true] at side
      exact Or.inr (Classical.not_not.mp fun different => turn ⟨side, different⟩)

theorem wait_cases (enabled : state.wait handle = some next) :
    Transition handle state .wait next := by
  unfold State.wait at enabled
  split at enabled
  · contradiction
  · rename_i free
    obtain ⟨⟨source, waited⟩, found, rest⟩ := Option.bind_eq_some_iff.mp enabled
    have dispatched : LooperFairness.step handle state.looper .dispatch =
        some { waited with dispatched := state.looper.dispatched ++ [source] } := by
      rw [LooperFairness.step, found]
      rfl
    cases source with
    | other other =>
        cases rest
        exact .dispatches other _ free dispatched rfl
    | channel id =>
        obtain ⟨link, entered, same⟩ := Option.map_eq_some_iff.mp rest
        subst next
        exact .enters id link _ free dispatched rfl entered

theorem step_cases (enabled : step handle state action = some next) :
    Transition handle state action next := by
  cases action with
  | transfer id moved => exact transfer_cases enabled
  | scheduleInLooper id =>
      simp only [step, State.scheduleInLooper] at enabled
      split at enabled
      · exact perform_cases rfl enabled
      · cases enabled
        exact .refuses id
  | unscheduleFromLooper id =>
      exact perform_cases rfl enabled
  | signal other => exact perform_cases rfl enabled
  | drain other => exact perform_cases rfl enabled
  | closeNumber other => exact perform_cases rfl enabled
  | addSource other => exact perform_cases rfl enabled
  | removeSource other => exact perform_cases rfl enabled
  | wait => exact wait_cases enabled

end CoreLib.ChannelLooper
