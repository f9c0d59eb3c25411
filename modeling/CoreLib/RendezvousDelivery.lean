/-
What a client sends reaches the channel that the server made for it.

A link starts as a connected pair whose server end nobody reads.  Its ledger goes on when
the server answers, so what was sent before is there for the channel of the callback, in
order, and what comes later follows it.
-/

import CoreLib.DeliveryGuarantees
import CoreLib.RendezvousGuarantees

set_option autoImplicit false

namespace CoreLib.Rendezvous

open Foundation Socket Delivery

theorem step_ofSender {state next : State} {action : Delivery.Action}
    (side : ofSender action = true) (enabled : Delivery.step state action = some next) :
    next.reading = state.reading ∧ next.dispatched = state.dispatched ∧
      next.receiver = state.receiver := by
  cases action with
  | send message =>
      obtain ⟨_, _, same⟩ := send_cases enabled
      subst next
      exact ⟨rfl, rfl, rfl⟩
  | sendmsgFails errno =>
      obtain ⟨_, _, same⟩ := sendmsgFails_cases enabled
      subst next
      exact ⟨rfl, rfl, rfl⟩
  | sendmsgAccepts control =>
      obtain ⟨_, _, _, _, _, _, same⟩ := sendmsgAccepts_cases enabled
      subst next
      exact ⟨rfl, rfl, rfl⟩
  | poll interrupted =>
      obtain ⟨_, _, same | same⟩ := poll_cases enabled
      · subst next
        exact ⟨rfl, rfl, rfl⟩
      · subst next
        exact ⟨rfl, rfl, rfl⟩
  | sendReturns =>
      obtain ⟨_, status, _, same⟩ := sendReturns_cases enabled
      subst next
      exact ⟨rfl, rfl, rfl⟩
  | terminateSender =>
      cases enabled
      exact ⟨rfl, rfl, rfl⟩
  | read => contradiction
  | recvmsgFails errno => contradiction
  | recvmsg descriptors => contradiction
  | dispatch => contradiction
  | readReturns => contradiction

/-- An end that has read nothing can be given to any channel. -/
theorem Relates.adopt {state : State} {ledger : Ledger Parcel}
    (relates : Delivery.Relates state ledger) (reading : state.reading = .idle)
    (dispatched : state.dispatched = []) {receiver : Channel} (opened : receiver.handle ≠ -1)
    (installed : receiver.messageReceivedCallback = true) (table : DescriptorTable) :
    Delivery.Relates { state with receiver := receiver, receiverTable := table } ledger := by
  obtain ⟨sound, represents⟩ := relates
  have collected : state.collected = [] := by
    rw [State.collected, reading]
    rfl
  have transit := represents.transit
  have delivered := represents.delivered
  rw [collected] at transit
  rw [dispatched] at delivered
  refine ⟨⟨sound.sendingSmall, sound.queueSmall, sound.running, installed, ?_, ?_, ?_⟩,
    ⟨represents.accepted, ?_, ?_⟩⟩
  · intro message member
    change message ∈ state.dispatched ++ state.collected at member
    rw [dispatched, collected] at member
    contradiction
  · intro ended
    rcases ended with closed | ⟨messages, found⟩
    · exact absurd closed opened
    · change state.reading = _ at found
      rw [reading] at found
      contradiction
  · intro closed
    exact absurd closed opened
  · change ledger.transit = state.collected.map _ ++ _
    rw [collected]
    exact transit
  · change ledger.delivered = state.dispatched.map _
    rw [dispatched]
    exact delivered

/-- Payload without attachments makes a message plain, whatever is open. -/
theorem sends_modest {message : Message} (table : DescriptorTable) (positive : 0 < message.size)
    (bare : message.attachments = []) : Sends Plain table (.send message) := by
  refine ⟨⟨message.contents_ne_nil positive, parcel_bare.mpr bare⟩, ?_⟩
  rw [bare]
  exact Nat.zero_le _

namespace Network

variable {Id : Type} [DecidableEq Id]

variable {capacity : Nat} {net next : Network Id} {action : Action Id}

structure Healthy (link : Link Id) : Prop where
  relates : ∃ ledger, Delivery.Relates link.state ledger
  carries : Carries Plain link.state.senderTable link.state
  unread : link.phase = .waiting ∨ link.phase = .refused →
    link.state.reading = .idle ∧ link.state.dispatched = []

/-- The messages of the clients have payload and no attachments. -/
def Modest : Action Id → Prop
  | .transfer _ (.send message) => 0 < message.size ∧ message.attachments = []
  | _ => True

omit [DecidableEq Id] in
theorem Modest.sends {number : Nat} {moved : Delivery.Action}
    (modest : Modest (.transfer number moved : Action Id)) (table : DescriptorTable) :
    Sends Plain table moved := by
  cases moved with
  | send message => exact sends_modest table modest.1 modest.2
  | _ => exact trivial

omit [DecidableEq Id] in
theorem Healthy.fresh (id : Id) {channel : Channel} (serial : Nat) (table : DescriptorTable)
    (opened : 0 < channel.handle) : Healthy (.fresh id serial channel table) := by
  have connected : Connected (Link.fresh id serial channel table).state :=
    { senderOpen := opened
      receiverOpen := (by decide : (0 : Int) < 1)
      installed := rfl
      sending := rfl
      reading := rfl
      queue := rfl
      returned := rfl
      dispatched := rfl }
  exact ⟨⟨_, initial_relates connected⟩, connected.carries Plain, fun _ => ⟨rfl, rfl⟩⟩

omit [DecidableEq Id] in
theorem Healthy.inPhase {link : Link Id} (healthy : Healthy link) {phase : Phase}
    (onward : phase = .waiting ∨ phase = .refused → link.phase = .waiting) :
    Healthy (link.inPhase phase) :=
  ⟨healthy.relates, healthy.carries, fun early => healthy.unread (Or.inl (onward early))⟩

omit [DecidableEq Id] in
theorem Healthy.answer {link : Link Id} (healthy : Healthy link) (waiting : link.phase = .waiting)
    (callback : Bool) (handle : FreshHandle) (table : DescriptorTable) (keeps : Bool) :
    Healthy (answer link callback handle table keeps) := by
  unfold Network.answer
  split
  · obtain ⟨⟨ledger, relates⟩, carries, unread⟩ := healthy
    obtain ⟨reading, dispatched⟩ := unread (Or.inl waiting)
    have opened : ((handle.val : Nat) : Int) ≠ -1 := by omega
    refine ⟨⟨ledger, Relates.adopt relates reading dispatched opened rfl table⟩,
      ⟨carries.sameTable, rfl, carries.sending, carries.queue⟩, ?_⟩
    intro early
    rcases early with impossible | impossible
    · contradiction
    · contradiction
  · exact healthy.inPhase fun _ => waiting

omit [DecidableEq Id] in
theorem Healthy.transfers {link : Link Id} (healthy : Healthy link) {moved : Delivery.Action}
    {state : State} (sends : ∀ table, Sends Plain table moved)
    (permitted : link.phase.permits moved = true)
    (enabled : Delivery.step link.state moved = some state) :
    Healthy { link with state := state } := by
  obtain ⟨⟨ledger, relates⟩, carries, unread⟩ := healthy
  have lossless := carries.lossless moved
  have kept := carries.step (sends _) lossless enabled
  obtain ⟨_, after, _, related⟩ :=
    step_matched relates (sends link.state.senderTable).sendable lossless enabled
  refine ⟨⟨after, related⟩, ?_, ?_⟩
  · rw [show state.senderTable = link.state.senderTable from kept.sameTable]
    exact kept
  · intro early
    obtain ⟨reading, dispatched⟩ := unread early
    have side : ofSender moved = true := by
      rcases early with waiting | refused
      · simpa [Phase.permits, show link.phase = .waiting from waiting] using permitted
      · have both := permitted
        simp only [show link.phase = .refused from refused, Phase.permits,
          Bool.and_eq_true] at both
        exact both.1
    obtain ⟨sameReading, sameDispatched, _⟩ := step_ofSender side enabled
    exact ⟨sameReading.trans reading, sameDispatched.trans dispatched⟩

def AllHealthy (net : Network Id) : Prop :=
  ∀ number link, net.links number = some link → Healthy link

theorem Transition.healthy (transition : Transition capacity net action next)
    (invariant : Invariant capacity net) (modest : Modest action) (healthy : AllHealthy net) :
    AllHealthy next := by
  cases transition with
  | fails => exact healthy
  | stays => exact healthy
  | constructs => exact healthy
  | sets => exact healthy
  | destroys id live names listed =>
      intro number now listed
      obtain ⟨old, earlier, same⟩ := Option.map_eq_some_iff.mp listed
      split at same
      · rename_i dropped
        subst same
        exact (healthy number old earlier).inPhase fun _ => dropped.2
      · subst same
        exact healthy number old earlier
  | creates => exact healthy
  | connects id refused table channel serial listed opened answers =>
      have positive := ((invariant.pairing.idle id channel listed).handle).resolve_right opened
      apply forall_update
      · intro number link _ found
        exact healthy number link found
      · intro link same
        cases same
        exact Healthy.fresh id serial table positive
  | terminates => exact healthy
  | accepts id handle table keeps live number rest link listed waiting found =>
      have served := (invariant.pairing.head waiting found).1
      have opened := (invariant.endpoints.live id live listed).1
      have waits : link.phase = .waiting := by
        rw [invariant.waits number link found, served, waiting]
        exact ⟨opened, List.mem_cons_self ..⟩
      apply forall_update
      · intro other now _ present
        exact healthy other now present
      · intro now same
        cases same
        exact (healthy number link found).answer waits live.callback handle table keeps
  | releases number link found accepted =>
      apply forall_update
      · intro other now _ present
        exact healthy other now present
      · intro now same
        cases same
        refine (healthy number link found).inPhase ?_
        intro early
        rcases early with impossible | impossible
        · contradiction
        · contradiction
  | transfers number moved link state found permitted enabled =>
      apply forall_update
      · intro other now _ present
        exact healthy other now present
      · intro now same
        cases same
        exact (healthy number link found).transfers modest.sends permitted enabled

end Network

end CoreLib.Rendezvous
