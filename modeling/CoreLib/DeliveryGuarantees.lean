/-
What a connected channel guarantees to its two users.

Delivery, attachment fidelity and termination are all read off the ledger that
the channel refines.  `Carries` transports a property of the messages that A sends
to the packets that B pops, which is how a restriction on the inputs becomes the
guard of the refinement.
-/

import CoreLib.DeliveryLedger

set_option autoImplicit false

namespace CoreLib.Delivery

open Foundation Socket

/-! ### From messages to packets -/

/-- Every message in progress and every packet under way has the quality. -/
structure Carries (quality : Parcel → Prop) (table : DescriptorTable) (state : State) : Prop where
  sameTable : state.senderTable = table
  installed : state.receiver.messageReceivedCallback = true
  sending : ∀ message point, state.sending = some (message, point) →
    quality (parcel table message) ∧
      message.attachments.length ≤ Message.MaxControlBufferItemCount
  queue : ∀ packet ∈ state.queue, quality packet.parcel

def Sends (quality : Parcel → Prop) (table : DescriptorTable) : Action → Prop
  | .send message => quality (parcel table message) ∧
      message.attachments.length ≤ Message.MaxControlBufferItemCount
  | _ => True

theorem Sends.sendable {quality : Parcel → Prop} {table : DescriptorTable} {action : Action}
    (sends : Sends quality table action) : Sendable action := by
  cases action with
  | send message => exact sends.2
  | _ => exact trivial

theorem Connected.carries {state : State} (connected : Connected state)
    (quality : Parcel → Prop) : Carries quality state.senderTable state := by
  refine ⟨rfl, connected.installed, ?_, ?_⟩
  · intro message point running
    rw [connected.sending] at running
    contradiction
  · intro packet member
    rw [connected.queue] at member
    contradiction

private theorem Carries.write {quality : Parcel → Prop} {table : DescriptorTable} {state : State}
    (carries : Carries quality table state) {message : Message}
    (good : quality (parcel table message) ∧
      message.attachments.length ≤ Message.MaxControlBufferItemCount)
    (point : WritePoint) : Carries quality table (state.write message point) := by
  refine ⟨carries.sameTable, carries.installed, ?_, carries.queue⟩
  intro other position found
  cases found
  exact good

theorem Carries.step {quality : Parcel → Prop} {table : DescriptorTable} {state next : State}
    {action : Action} (carries : Carries quality table state)
    (sends : Sends quality table action) (lossless : Lossless state action)
    (enabled : step state action = some next) : Carries quality table next := by
  cases action with
  | send message =>
      obtain ⟨_, _, same⟩ := send_cases enabled
      subst next
      exact carries.write sends _
  | sendmsgFails errno =>
      obtain ⟨message, running, same⟩ := sendmsgFails_cases enabled
      subst next
      exact carries.write (carries.sending message _ running) _
  | sendmsgAccepts control =>
      obtain ⟨message, packet, running, _, size, built, same⟩ := sendmsgAccepts_cases enabled
      rw [lossless message _ running size] at built
      have good := carries.sending message _ running
      have meaning := ofMessage_parcel (Nat.lt_of_le_of_lt good.2 (by decide)) built
      rw [carries.sameTable] at meaning
      have written := carries.write good
        (WriteMessage.afterSendmsg message { rc := message.size, errno := .other 0 })
      subst next
      refine ⟨written.sameTable, written.installed, written.sending, ?_⟩
      intro other member
      rcases List.mem_append.mp member with old | new
      · exact carries.queue other old
      · rw [List.mem_singleton] at new
        rw [new, meaning]
        exact good.1
  | poll interrupted =>
      obtain ⟨message, running, same⟩ := poll_cases enabled
      have good := carries.sending message _ running
      rcases same with same | same
      · subst next
        exact carries.write good _
      · subst next
        exact carries.write good _
  | sendReturns =>
      obtain ⟨message, status, _, same⟩ := sendReturns_cases enabled
      subst next
      exact ⟨carries.sameTable, carries.installed, nofun, carries.queue⟩
  | terminateSender =>
      cases enabled
      exact ⟨carries.sameTable, carries.installed, carries.sending, carries.queue⟩
  | read =>
      obtain ⟨_, same⟩ := read_cases enabled
      subst next
      exact ⟨carries.sameTable, carries.installed, carries.sending, carries.queue⟩
  | recvmsgFails errno =>
      obtain ⟨messages, _, same | ⟨status, _, same⟩⟩ :=
        recvmsgFails_cases carries.installed enabled
      · subst next
        exact ⟨carries.sameTable, carries.installed, carries.sending, carries.queue⟩
      · subst next
        exact ⟨carries.sameTable, carries.installed, carries.sending, carries.queue⟩
  | recvmsg descriptors =>
      obtain ⟨messages, _, _, ⟨_, _, same⟩ | ⟨_, same⟩ | ⟨packet, rest, found, _, same⟩⟩ :=
        recvmsg_cases carries.installed enabled
      · subst next
        exact ⟨carries.sameTable, carries.installed, carries.sending, carries.queue⟩
      · subst next
        exact ⟨carries.sameTable, carries.installed, carries.sending, carries.queue⟩
      · subst next
        refine ⟨carries.sameTable, carries.installed, carries.sending, ?_⟩
        intro other member
        exact carries.queue other (by rw [found]; exact List.mem_cons_of_mem _ member)
  | dispatch =>
      obtain ⟨status, message, rest, _, same⟩ := dispatch_cases enabled
      subst next
      exact ⟨carries.sameTable, carries.installed, carries.sending, carries.queue⟩
  | readReturns =>
      obtain ⟨status, _, same⟩ := readReturns_cases enabled
      have settled : (if status = .permanentFailure then state.receiver.terminated
          else state.receiver).messageReceivedCallback = true := by
        split
        · exact carries.installed
        · exact carries.installed
      subst next
      exact ⟨carries.sameTable, settled, carries.sending, carries.queue⟩

theorem parcel_bare {table : DescriptorTable} {message : Message} :
    (parcel table message).2 = [] ↔ message.attachments = [] := List.map_eq_nil_iff

theorem Packet_parcel_bare {packet : Packet} : packet.parcel.2 = [] ↔ packet.files = [] :=
  List.map_eq_nil_iff

def Bare (item : Parcel) : Prop := item.2 = []

def Plain (item : Parcel) : Prop := item.1 ≠ [] ∧ item.2 = []

def PopsPayload (state : State) : Action → Prop
  | .recvmsg _ => ∀ packet rest, state.queue = packet :: rest → packet.payload ≠ []
  | _ => True

/-- Without attachments nothing but an empty packet gets lost. -/
theorem Carries.lossless_of_payload {table : DescriptorTable} {state : State} {action : Action}
    (carries : Carries Bare table state) (pops : PopsPayload state action) :
    Lossless state action := by
  cases action with
  | sendmsgAccepts control =>
      intro message point running size
      have bare := parcel_bare.mp (carries.sending message point running).1
      rw [control_bare bare] at size ⊢
      exact List.length_eq_zero_iff.mp size
  | recvmsg descriptors =>
      intro packet rest found
      have bare : packet.files = [] :=
        Packet_parcel_bare.mp (carries.queue packet (by rw [found]; exact List.mem_cons_self ..))
      refine ⟨pops packet rest found, ?_, fun files => absurd bare files⟩
      rw [bare]
      exact Nat.zero_le 1
  | _ => exact trivial

theorem Carries.mono {quality weaker : Parcel → Prop} {table : DescriptorTable} {state : State}
    (implied : ∀ item, quality item → weaker item) (carries : Carries quality table state) :
    Carries weaker table state :=
  { sameTable := carries.sameTable
    installed := carries.installed
    sending := fun message point running =>
      ⟨implied _ (carries.sending message point running).1,
        (carries.sending message point running).2⟩
    queue := fun packet member => implied _ (carries.queue packet member) }

theorem Carries.lossless {table : DescriptorTable} {state : State}
    (carries : Carries Plain table state) (action : Action) : Lossless state action := by
  refine (carries.mono fun _ plain => plain.2).lossless_of_payload ?_
  cases action with
  | recvmsg descriptors =>
      intro packet rest found
      exact (carries.queue packet (by rw [found]; exact List.mem_cons_self ..)).1
  | _ => exact trivial

/-- A run that sends plain messages only is lossless, so the channel refines the ledger
along it. -/
theorem plain_run_represents {state final : State} {actions : List Action}
    (connected : Connected state)
    (plain : ∀ action ∈ actions, Sends Plain state.senderTable action)
    (performed : run step state actions = some final) :
    ∃ labels ledger, run Ledger.step Ledger.empty labels = some ledger ∧
      Relates final ledger := by
  have sends : Respects step (fun _ action => Sends Plain state.senderTable action)
      state actions := Respects.of_forall fun _ => plain
  have carried : Always step (Carries Plain state.senderTable) state actions :=
    always_of_preserved
      (fun _ action _ carries within enabled =>
        carries.step within (carries.lossless action) enabled)
      (connected.carries Plain) sends
  have lossless : Respects step Lossless state actions :=
    Respects.of_always (fun _ action carries => carries.lossless action) carried
  have sendable : Respects step (fun _ action => Sendable action) state actions :=
    Respects.of_forall fun _ action member => (plain action member).sendable
  exact run_represents connected (sendable.and lossless) performed

/-! ### Consequences of the ledger -/

def Conserved (state : State) : Prop :=
  (state.dispatched ++ state.collected).map (parcel state.receiverTable) ++
      state.queue.map Packet.parcel =
    (state.acknowledged ++ state.inFlight).map (parcel state.senderTable)

theorem Relates.conserved {state : State} {ledger : Ledger Parcel}
    (relates : Relates state ledger) : Conserved state := by
  obtain ⟨_, accepted, transit, delivered⟩ := relates
  rw [Conserved, List.map_append, List.append_assoc, ← transit, ← delivered, ← accepted]
  exact ledger.conserved

/-! ### Delivery -/

/-- The payload bytes of the messages that A's sendMessage has sent with success. -/
def State.sent (state : State) : List (List UInt8) :=
  (state.acknowledged ++ state.inFlight).map Message.contents

def State.underWay (state : State) : List (List UInt8) :=
  state.collected.map Message.contents ++ state.queue.map Packet.payload

theorem Conserved.payloads {state : State} (conserved : Conserved state) :
    state.dispatched.map Message.contents ++ state.underWay = state.sent := by
  have payloads := congrArg (List.map Prod.fst) conserved
  simp only [List.map_append, List.map_map] at payloads
  rw [State.underWay, State.sent, List.map_append, ← List.append_assoc]
  exact payloads

theorem Relates.ordered {state : State} {ledger : Ledger Parcel}
    (relates : Relates state ledger) : state.dispatched.map Message.contents <+: state.sent := by
  have ordered := ledger.delivered_prefix.map Prod.fst
  rw [relates.represents.delivered, relates.represents.accepted, List.map_map,
    List.map_map] at ordered
  exact ordered

theorem Relates.drained {state : State} {ledger : Ledger Parcel} (relates : Relates state ledger)
    (collected : state.collected = []) (queue : state.queue = []) :
    state.dispatched.map Message.contents = state.sent := by
  have nothing : ledger.transit = [] := by
    rw [relates.represents.transit, collected, queue]
    rfl
  have drained := congrArg (List.map Prod.fst) (Ledger.delivered_all nothing)
  rw [relates.represents.delivered, relates.represents.accepted, List.map_map,
    List.map_map] at drained
  exact drained

/-- No payload is lost, repeated or reordered between A's sendMessage and B's
callback, and B has them all once it has seen the shutdown. -/
theorem fifo_exactly_once {state final : State} {actions : List Action}
    (connected : Connected state)
    (bare : ∀ message, .send message ∈ actions → 0 < message.size ∧ message.attachments = [])
    (performed : run step state actions = some final) :
    final.reading ≠ .aborted ∧
      final.dispatched.map Message.contents ++ final.underWay = final.sent ∧
      final.dispatched.map Message.contents <+: final.sent ∧
      (final.sending = none →
        final.dispatched.map Message.contents <+: final.acknowledged.map Message.contents) ∧
      (final.receiver.handle = -1 → final.dispatched.map Message.contents = final.sent) := by
  have plain : ∀ action ∈ actions, Sends Plain state.senderTable action := by
    intro action member
    cases action with
    | send message =>
        obtain ⟨positive, none_⟩ := bare message member
        exact ⟨⟨message.contents_ne_nil positive, parcel_bare.mpr none_⟩,
          by rw [none_]; exact Nat.zero_le _⟩
    | _ => exact trivial
  obtain ⟨_, ledger, _, relates⟩ := plain_run_represents connected plain performed
  have ordered := relates.ordered
  refine ⟨relates.sound.running, relates.conserved.payloads, ordered, ?_, ?_⟩
  · intro finished
    rw [State.sent, State.inFlight, finished, List.append_nil] at ordered
    exact ordered
  · intro closed
    exact relates.drained (relates.sound.closed closed) (relates.sound.shutdown (Or.inl closed)).2

/-- A connected pair whose sending process has the given descriptors open, on a platform
where the control loop of B can start. -/
def connectedState (senderTable : DescriptorTable) : State :=
  { nullHeader := .yieldsFirst
    sender := Channel.adopted 3
    receiver := { Channel.adopted 4 with messageReceivedCallback := true }
    senderTable := senderTable
    receiverTable := fun _ => none
    sending := none
    reading := .idle
    queue := []
    returned := []
    dispatched := [] }

theorem connectedState_connected (senderTable : DescriptorTable) :
    Connected (connectedState senderTable) :=
  { senderOpen := (by decide : (0 : Int) < 3)
    receiverOpen := (by decide : (0 : Int) < 4)
    installed := rfl
    sending := rfl
    reading := rfl
    queue := rfl
    returned := rfl
    dispatched := rfl }

def sampleRun : List Action :=
  [.send (.oneByte []), .sendmsgFails .EINTR, .sendmsgAccepts [], .sendReturns, .terminateSender,
    .read, .recvmsg [], .recvmsg [], .dispatch, .readReturns]

theorem fifo_exactly_once_sampleRun :
    ∃ final, run step (connectedState fun _ => none) sampleRun = some final ∧
      final.reading ≠ .aborted ∧ final.receiver.handle = -1 ∧
      final.dispatched.map Message.contents = [[7]] := by
  obtain ⟨final, performed, closed, sent⟩ :
      ∃ final, run step (connectedState fun _ => none) sampleRun = some final ∧
        final.receiver.handle = -1 ∧ final.sent = [[7]] := ⟨_, rfl, rfl, rfl⟩
  have bare : ∀ message, .send message ∈ sampleRun →
      0 < message.size ∧ message.attachments = [] := by
    intro message member
    simp only [sampleRun, List.mem_cons, Action.send.injEq, reduceCtorEq, or_false,
      List.not_mem_nil] at member
    subst message
    exact ⟨by decide, rfl⟩
  obtain ⟨running, _, _, _, drained⟩ :=
    fifo_exactly_once (connectedState_connected _) bare performed
  exact ⟨final, performed, running, closed, (drained closed).trans sent⟩

/-! ### Attachments -/

/-- However often A sends the message and whenever B reads, no assertion of B fails and B
holds the same payload with the same open files in the same order.  The control loop of B
can start. -/
def Transfers (table : DescriptorTable) (message : Message) : Prop :=
  ∀ state final actions, Connected state → state.nullHeader = .yieldsFirst →
    state.senderTable = table → (∀ other, .send other ∈ actions → other = message) →
    run step state actions = some final → final.reading ≠ .aborted ∧ Conserved final

private theorem oneMessage_sends {quality : Parcel → Prop} {table : DescriptorTable}
    {message : Message} {actions : List Action}
    (only : ∀ other, .send other ∈ actions → other = message)
    (good : quality (parcel table message))
    (few : message.attachments.length ≤ Message.MaxControlBufferItemCount) :
    ∀ action ∈ actions, Sends quality table action := by
  intro action member
  cases action with
  | send other =>
      rw [only other member]
      exact ⟨good, few⟩
  | _ => exact trivial

/-- A has sent the message to a connected pair, and the kernel has made this packet of it. -/
def firstPacket (table : DescriptorTable) (message : Message) (packet : Packet) : State :=
  { connectedState table with
    sending := some (message, .returned .success)
    queue := [packet] }

theorem run_firstPacket {table : DescriptorTable} {message : Message} {packet : Packet}
    {control : List UInt8} (small : message.size ≤ Channel.maxMessageSize)
    (size : control.length = (WriteMessage.control message).length)
    (built : Packet.ofControl table message control = some packet) :
    run step (connectedState table) [.send message, .sendmsgAccepts control] =
      some (firstPacket table message packet) := by
  have bounded : message.size ≤ MaxBufferSize := Nat.le_trans small (by decide)
  have sent : step (connectedState table) (.send message) =
      some ((connectedState table).write message .sendmsg) := by
    rw [← Channel.enter_small small]
    exact if_pos small
  have accepted : step ((connectedState table).write message .sendmsg)
      (.sendmsgAccepts control) = some (firstPacket table message packet) := by
    simp only [step, State.sendmsgAccepts, State.write]
    rw [show (connectedState table).senderTable = table from rfl, built,
      afterSendmsg_complete bounded, if_neg (not_not.mpr size)]
    rfl
  rw [run_cons, sent, Option.bind_some, run_cons, accepted]
  rfl

/-- With attachments, the bytes that sendmsg finds can cost a successful send its files. -/
theorem attachments_lost {table : DescriptorTable} {message : Message}
    (small : message.size ≤ Channel.maxMessageSize)
    (limit : message.attachments.length ≤ Message.MaxControlBufferItemCount)
    (attached : message.attachments ≠ []) :
    ∃ control final, run step (connectedState table)
        [.send message, .sendmsgAccepts control] = some final ∧ ¬ Conserved final := by
  obtain ⟨control, size, built⟩ :=
    foreign_control table (Nat.lt_of_le_of_lt limit (by decide)) attached
  refine ⟨control, _, run_firstPacket small size built, ?_⟩
  intro conserved
  have parcels : [(message.contents, [])] = [parcel table message] := conserved
  have files := congrArg Prod.snd (List.cons.inj parcels).1
  exact attached (parcel_bare.mp files.symm)

private theorem Transfers.bare {table : DescriptorTable} {message : Message}
    (transfers : Transfers table message) (small : message.size ≤ Channel.maxMessageSize)
    (limit : message.attachments.length ≤ Message.MaxControlBufferItemCount) :
    message.attachments = [] := by
  apply Classical.byContradiction
  intro attached
  obtain ⟨control, final, performed, lost⟩ := attachments_lost small limit attached
  refine lost (transfers _ _ _ (connectedState_connected table) rfl rfl ?_ performed).2
  intro other member
  simpa using member

/-- Within the limits of a control buffer, a message is transferred faithfully exactly when
it carries no attachment: the control data of every other message lie in an array that
has ended when sendmsg reads them. -/
theorem transfers_iff {table : DescriptorTable} {message : Message}
    (positive : 0 < message.size) (small : message.size ≤ Channel.maxMessageSize)
    (limit : message.attachments.length ≤ Message.MaxControlBufferItemCount) :
    Transfers table message ↔ message.attachments = [] := by
  constructor
  · intro transfers
    exact transfers.bare small limit
  · intro bare state final actions connected _ sameTable only performed
    have good : Plain (parcel state.senderTable message) :=
      ⟨message.contents_ne_nil positive, parcel_bare.mpr bare⟩
    obtain ⟨_, ledger, _, relates⟩ :=
      plain_run_represents connected (oneMessage_sends only good limit) performed
    exact ⟨relates.sound.running, relates.conserved⟩

theorem transfers_iff_oneByte :
    0 < (Message.oneByte []).size ∧ (Message.oneByte []).size ≤ Channel.maxMessageSize ∧
      (Transfers (fun _ => none) (Message.oneByte []) ↔
        (Message.oneByte []).attachments = []) :=
  ⟨by decide, by decide, transfers_iff (by decide) (by decide) (by decide)⟩

def freshDescriptors (count : Nat) (small : count ≤ 8) : List Descriptor :=
  (List.finRange count).map (Fin.castLE (Nat.le_trans small (by decide)))

theorem freshDescriptors_installable {packet : Packet} (small : packet.files.length ≤ 8) :
    Installable (fun _ => none) packet (freshDescriptors packet.files.length small) := by
  refine ⟨?_, ?_, fun _ _ => rfl⟩
  · rw [freshDescriptors, List.length_map, List.length_finRange]
  · exact (List.nodup_finRange _).map (Fin.castLE_injective _)

theorem recvmsg_packet {state : State} {messages : List Message} {packet : Packet}
    {rest : List Packet} {descriptors : List Descriptor}
    (receiving : state.reading = .receiving messages) (opened : state.receiver.handle ≠ -1)
    (found : state.queue = packet :: rest)
    (installable : Installable state.receiverTable packet descriptors) :
    state.recvmsg descriptors = some { state with
      reading := state.resume
        (ReadMessages.afterRecvmsg messages (packet.copyOut state.nullHeader descriptors))
      receiverTable := install state.receiverTable descriptors packet.files
      queue := rest } := by
  unfold State.recvmsg
  rw [receiving]
  dsimp only
  rw [if_neg opened, found]
  exact if_pos installable

/-- Even if sendmsg finds what the writer has written, B aborts when it reads a message with
several attachments. -/
theorem several_attachments_abort {table : DescriptorTable} {message : Message}
    (positive : 0 < message.size) (small : message.size ≤ Channel.maxMessageSize)
    (limit : message.attachments.length ≤ Message.MaxControlBufferItemCount)
    (opened : Opened table message) (several : 2 ≤ message.attachments.length) :
    ∃ descriptors final, run step (connectedState table)
        [.send message, .sendmsgAccepts (WriteMessage.control message), .read,
          .recvmsg descriptors] = some final ∧ final.reading = .aborted := by
  obtain ⟨packet, built, payload, count⟩ := ofMessage_of_open
    (Nat.lt_of_le_of_lt limit (by decide)) opened
  have fits : packet.files.length ≤ 8 := by
    rw [count]
    exact limit
  have installable := freshDescriptors_installable fits
  have nonempty : packet.payload ≠ [] := by
    rw [payload]
    exact message.contents_ne_nil positive
  have many : 2 ≤ (freshDescriptors packet.files.length fits).length := by
    rw [installable.1, count]
    exact several
  have read : step (firstPacket table message packet) .read = some
      { firstPacket table message packet with reading := .receiving [] } := rfl
  have popped : State.recvmsg { firstPacket table message packet with reading := .receiving [] }
      _ = some _ := recvmsg_packet rfl (by decide : (4 : Int) ≠ -1) rfl installable
  refine ⟨_, _, run_trans (run_firstPacket small rfl built)
    (run_trans (run_one read) (run_one popped)), ?_⟩
  rw [afterRecvmsg_several [] nonempty many]
  rfl

def attachment (handle : Fin 100) : Attachment :=
  { handle := handle.val
    lower := by omega
    upper := by omega }

def openTable : DescriptorTable := fun number =>
  if number = 10 then some 1 else if number = 11 then some 2 else if number = 12 then some 3
  else none

/-- The process of B ends at a message with two attachments. -/
theorem two_attachments_not_transferred :
    0 < (Message.oneByte [attachment 10, attachment 11]).size ∧
      (Message.oneByte [attachment 10, attachment 11]).size ≤ Channel.maxMessageSize ∧
      (Message.oneByte [attachment 10, attachment 11]).attachments.length ≤
        Message.MaxControlBufferItemCount ∧
      Opened openTable (Message.oneByte [attachment 10, attachment 11]) ∧
      (∃ descriptors final, run step (connectedState openTable)
        [.send (.oneByte [attachment 10, attachment 11]),
          .sendmsgAccepts (WriteMessage.control (.oneByte [attachment 10, attachment 11])),
          .read, .recvmsg descriptors] = some final ∧ final.reading = .aborted) ∧
      ¬ Transfers openTable (Message.oneByte [attachment 10, attachment 11]) := by
  have opened : Opened openTable (Message.oneByte [attachment 10, attachment 11]) := by
    intro other member
    rcases List.mem_pair.mp member with same | same
    · rw [same]
      rfl
    · rw [same]
      rfl
  have aborts := several_attachments_abort (by decide) (by decide) (by decide) opened (by decide)
  refine ⟨by decide, by decide, by decide, opened, aborts, fun transfers => ?_⟩
  obtain ⟨descriptors, final, performed, aborted⟩ := aborts
  refine (transfers _ _ _ (connectedState_connected openTable) rfl rfl ?_ performed).1 aborted
  intro other member
  simpa using member

/-! ### Termination -/

/-- B is or will be terminated by its reader only if A is closed, and nothing that
A sent with success is missing. -/
structure PeerGoneOnly (state : State) : Prop where
  terminated : (state.receiver.handle = -1 ∨
      ∃ messages, state.reading = .dispatching .permanentFailure messages) →
    state.sender.handle = -1
  kept : state.dispatched.map Message.contents ++ state.underWay = state.sent

theorem Relates.peerGoneOnly {state : State} {ledger : Ledger Parcel}
    (relates : Relates state ledger) : PeerGoneOnly state :=
  ⟨fun ended => (relates.sound.shutdown ended).1, relates.conserved.payloads⟩

/-- Popping an empty packet ends the read as if A were gone, and drops the packet. -/
theorem empty_pop_not_peerGoneOnly {state next : State} {action : Action}
    (installed : state.receiver.messageReceivedCallback = true) (before : PeerGoneOnly state)
    (empty : ¬ PopsPayload state action) (enabled : step state action = some next) :
    ¬ PeerGoneOnly next := by
  cases action with
  | recvmsg descriptors =>
      intro after
      have pops : ∃ packet rest, state.queue = packet :: rest ∧ packet.payload = [] := by
        simp only [PopsPayload, not_forall, not_not] at empty
        obtain ⟨packet, rest, found, nothing⟩ := empty
        exact ⟨packet, rest, found, nothing⟩
      obtain ⟨popped, others, found, nothing⟩ := pops
      obtain ⟨messages, receiving, _, ⟨none_, _⟩ | ⟨none_, _⟩ | ⟨packet, rest, same, _, result⟩⟩ :=
        recvmsg_cases installed enabled
      · rw [found] at none_
        contradiction
      · rw [found] at none_
        contradiction
      · rw [found] at same
        cases same
        rw [afterRecvmsg_empty state.nullHeader messages nothing] at result
        have lengthBefore := congrArg List.length before.kept
        have lengthAfter := congrArg List.length after.kept
        have sameSent : next.sent = state.sent := by rw [result]; rfl
        rw [sameSent, ← lengthBefore, result] at lengthAfter
        simp only [State.underWay, State.collected, receiving, found, Reading.ofPoint,
          Reading.collected, List.length_append, List.length_map, List.length_cons,
          if_true] at lengthAfter
        omega
  | _ => exact absurd trivial empty

/-- The condition on a step: no attachments are sent, and no empty packet is popped. -/
def Meets (state : State) : Action → Prop
  | .send message => message.attachments = []
  | action => PopsPayload state action

theorem Meets.pops {state : State} {action : Action} (meets : Meets state action) :
    PopsPayload state action := by
  cases action with
  | recvmsg descriptors => exact meets
  | _ => exact trivial

theorem Meets.sends {state : State} {action : Action} (meets : Meets state action)
    (table : DescriptorTable) : Sends Bare table action := by
  cases action with
  | send message =>
      have bare : message.attachments = [] := meets
      exact ⟨parcel_bare.mpr bare, by rw [bare]; exact Nat.zero_le _⟩
  | _ => exact trivial

theorem peerGoneOnly_step {current next : State} {table : DescriptorTable} {action : Action}
    (held : (∃ ledger, Relates current ledger) ∧ Carries Bare table current)
    (sends : Sends Bare table action) (pops : PopsPayload current action)
    (enabled : step current action = some next) :
    (∃ ledger, Relates next ledger) ∧ Carries Bare table next := by
  obtain ⟨⟨ledger, relates⟩, carries⟩ := held
  have lossless := carries.lossless_of_payload pops
  obtain ⟨_, after, _, related⟩ := step_matched relates sends.sendable lossless enabled
  exact ⟨⟨after, related⟩, carries.step sends lossless enabled⟩

/-- Along every run that sends no attachments and pops no empty packet, B is terminated only
because A is gone and keeps every message; and without attachments that is so exactly as
long as no packet that B pops is empty. -/
theorem peer_gone_only_iff {state : State} {actions : List Action}
    (connected : Connected state) :
    (Respects step Meets state actions → Always step PeerGoneOnly state actions) ∧
      ((∀ message, .send message ∈ actions → message.attachments = []) →
        (Always step PeerGoneOnly state actions ↔
          Respects step PopsPayload state actions)) := by
  have start : (∃ ledger, Relates state ledger) ∧ Carries Bare state.senderTable state :=
    ⟨⟨_, initial_relates connected⟩, connected.carries Bare⟩
  constructor
  · intro meets
    have always : Always step (fun current => (∃ ledger, Relates current ledger) ∧
        Carries Bare state.senderTable current) state actions := by
      refine always_of_preserved ?_ start meets
      intro current action next held meets enabled
      exact peerGoneOnly_step held (meets.sends _) meets.pops enabled
    refine always.mono ?_
    rintro current ⟨⟨ledger, relates⟩, _⟩
    exact relates.peerGoneOnly
  · intro bare
    have sends : ∀ action ∈ actions, Sends Bare state.senderTable action := by
      intro action member
      cases action with
      | send message =>
          have none_ := bare message member
          exact ⟨parcel_bare.mpr none_, by rw [none_]; exact Nat.zero_le _⟩
      | _ => exact trivial
    refine always_iff_respects (Sends Bare state.senderTable)
      (fun current => (∃ ledger, Relates current ledger) ∧
        Carries Bare state.senderTable current) ?_ ?_ ?_ start sends
    · intro current action next held sends pops enabled
      exact peerGoneOnly_step held sends pops enabled
    · rintro current ⟨⟨ledger, relates⟩, _⟩
      exact relates.peerGoneOnly
    · rintro current action next ⟨⟨ledger, relates⟩, carries⟩ empty enabled
      exact empty_pop_not_peerGoneOnly carries.installed relates.peerGoneOnly empty enabled

theorem peer_gone_only_iff_sampleRun :
    Always step PeerGoneOnly (connectedState fun _ => none) sampleRun ↔
      Respects step PopsPayload (connectedState fun _ => none) sampleRun := by
  apply (peer_gone_only_iff (connectedState_connected _)).2
  intro message member
  simp only [sampleRun, List.mem_cons, Action.send.injEq, reduceCtorEq, or_false,
    List.not_mem_nil] at member
  subst message
  rfl

/-- A sends a message without payload, then a byte; B terminates with the byte still queued,
while A is open. -/
def emptyRun : List Action :=
  [.send .empty, .sendmsgAccepts [], .sendReturns,
    .send (.oneByte []), .sendmsgAccepts [], .sendReturns,
    .read, .recvmsg [], .readReturns]

theorem empty_payload_terminates :
    (∃ final, run step (connectedState fun _ => none) emptyRun = some final ∧
      final.returned.map Prod.snd = [true, true] ∧ final.sender.handle = 3 ∧
      final.receiver.handle = -1 ∧ final.dispatched.length = 0) ∧
    ¬ Always step PeerGoneOnly (connectedState fun _ => none) emptyRun := by
  have reached : ∃ final, run step (connectedState fun _ => none) emptyRun = some final ∧
      final.returned.map Prod.snd = [true, true] ∧ final.sender.handle = 3 ∧
      final.receiver.handle = -1 ∧ final.dispatched.length = 0 := ⟨_, rfl, rfl, rfl, rfl, rfl⟩
  refine ⟨reached, fun always => ?_⟩
  obtain ⟨final, performed, _, opened, closed, _⟩ := reached
  have gone := (always.final performed).terminated (Or.inl closed)
  rw [opened] at gone
  contradiction

end CoreLib.Delivery
