/-
The channel simulates the first-in first-out ledger.

`Represents` reads a ledger off a state: accepted are the messages whose sendmsg
has completed, under way are B's current batch followed by the kernel queue, and
delivered is what B's callback was given.  Completed sendmsg calls are ledger
accepts, dispatches are ledger deliveries, and every other step leaves the ledger
alone, provided that sendmsg finds the control bytes that the writer has written, and
that each packet B pops is one that its reader can tell from a shutdown and whose
descriptors it can take (`Lossless`).
-/

import CoreLib.Delivery

set_option autoImplicit false

namespace CoreLib.Delivery

open Foundation Socket

/-! ### What each step does -/

theorem send_cases {state next : State} {message : Message}
    (enabled : step state (.send message) = some next) :
    state.sending = none ∧ message.size ≤ Channel.maxMessageSize ∧
      next = state.write message (WriteMessage.enter message) := by
  simp only [step] at enabled
  split at enabled
  · rename_i free
    split at enabled
    · rename_i small
      cases enabled
      exact ⟨free, small, rfl⟩
    · cases enabled
  · cases enabled

theorem sendmsgFails_cases {state next : State} {errno : Errno}
    (enabled : state.sendmsgFails errno = some next) :
    ∃ message, state.sending = some (message, .sendmsg) ∧
      next = state.write message (WriteMessage.afterSendmsg message (.failure errno)) := by
  unfold State.sendmsgFails at enabled
  split at enabled
  · rename_i message running
    split at enabled
    · cases enabled
    · cases enabled
      exact ⟨message, running, rfl⟩
  · cases enabled

theorem sendmsgAccepts_cases {state next : State} {control : List UInt8}
    (enabled : state.sendmsgAccepts control = some next) :
    ∃ message packet, state.sending = some (message, .sendmsg) ∧ state.sender.handle ≠ -1 ∧
      control.length = (WriteMessage.control message).length ∧
      Packet.ofControl state.senderTable message control = some packet ∧
      next = { state.write message (WriteMessage.afterSendmsg message
          { rc := message.size, errno := .other 0 }) with
        queue := state.queue ++ [packet] } := by
  unfold State.sendmsgAccepts at enabled
  split at enabled
  · rename_i message running
    split at enabled
    · cases enabled
    · rename_i opened
      split at enabled
      · cases enabled
      · rename_i size
        split at enabled
        · cases enabled
        · rename_i packet built
          cases enabled
          exact ⟨message, packet, running, opened, not_not.mp size, built, rfl⟩
  · cases enabled

theorem poll_cases {state next : State} {interrupted : Bool}
    (enabled : state.poll interrupted = some next) :
    ∃ message, state.sending = some (message, .poll) ∧
      (next = state.write message .poll ∨ next = state.write message .sendmsg) := by
  unfold State.poll at enabled
  split at enabled
  · rename_i message running
    cases interrupted with
    | false =>
        cases enabled
        exact ⟨message, running, Or.inr rfl⟩
    | true =>
        cases enabled
        exact ⟨message, running, Or.inl rfl⟩
  · cases enabled

theorem sendReturns_cases {state next : State} (enabled : state.sendReturns = some next) :
    ∃ message status, state.sending = some (message, .returned status) ∧
      next = { state with
        sender := if status = .permanentFailure then state.sender.terminated else state.sender
        sending := none
        returned := state.returned ++ [(message, decide (status = .success))] } := by
  unfold State.sendReturns at enabled
  split at enabled
  · rename_i message status running
    cases enabled
    exact ⟨message, status, running, rfl⟩
  · cases enabled

theorem read_cases {state next : State} (enabled : step state .read = some next) :
    state.reading = .idle ∧ next = { state with reading := .receiving [] } := by
  simp only [step] at enabled
  split at enabled
  · rename_i idle
    cases enabled
    exact ⟨idle, rfl⟩
  · cases enabled

/-- With the callback installed, a failed recvmsg keeps the batch: it is received
again or handed over for dispatch, and the status is not a permanent failure. -/
theorem recvmsgFails_cases {state next : State} {errno : Errno}
    (installed : state.receiver.messageReceivedCallback = true)
    (enabled : state.recvmsgFails errno = some next) :
    ∃ messages, state.reading = .receiving messages ∧
      (next = { state with reading := .receiving messages } ∨
        ∃ status, status ≠ .permanentFailure ∧
          next = { state with reading := .dispatching status messages }) := by
  unfold State.recvmsgFails at enabled
  split at enabled
  · rename_i messages receiving
    split at enabled
    · cases enabled
    · cases enabled
      refine ⟨messages, receiving, ?_⟩
      rcases afterRecvmsg_failure messages errno with again | ⟨status, temporary, returned⟩
      · exact Or.inl (by rw [again]; rfl)
      · refine Or.inr ⟨status, temporary, ?_⟩
        rw [returned, State.resume, installed]
        rfl
  · cases enabled

theorem recvmsg_cases {state next : State} {descriptors : List Descriptor}
    (installed : state.receiver.messageReceivedCallback = true)
    (enabled : state.recvmsg descriptors = some next) :
    ∃ messages, state.reading = .receiving messages ∧ state.receiver.handle ≠ -1 ∧
      ((state.queue = [] ∧ state.sender.handle = -1 ∧
          next = { state with reading := .dispatching .permanentFailure messages }) ∨
        (state.queue = [] ∧ next = { state with reading := .dispatching .success messages }) ∨
        ∃ packet rest, state.queue = packet :: rest ∧
          Installable state.receiverTable packet descriptors ∧
          next = { state with
            reading := .ofPoint true
              (ReadMessages.afterRecvmsg messages (packet.copyOut state.nullHeader descriptors))
            receiverTable := install state.receiverTable descriptors packet.files
            queue := rest }) := by
  unfold State.recvmsg at enabled
  split at enabled
  · rename_i messages receiving
    split at enabled
    · cases enabled
    · rename_i opened
      refine ⟨messages, receiving, opened, ?_⟩
      split at enabled
      · rename_i empty
        cases enabled
        rw [State.resume, installed]
        by_cases closed : state.sender.handle = -1
        · rw [if_pos closed]
          exact Or.inl ⟨empty, closed, rfl⟩
        · rw [if_neg closed]
          exact Or.inr (Or.inl ⟨empty, rfl⟩)
      · rename_i packet rest found
        split at enabled
        · rename_i installable
          cases enabled
          refine Or.inr (Or.inr ⟨packet, rest, found, installable, ?_⟩)
          rw [State.resume, installed]
        · cases enabled
  · cases enabled

theorem dispatch_cases {state next : State} (enabled : state.dispatch = some next) :
    ∃ status message rest, state.reading = .dispatching status (message :: rest) ∧
      next = { state with
        reading := .dispatching status rest
        dispatched := state.dispatched ++ [message] } := by
  unfold State.dispatch at enabled
  split at enabled
  · rename_i status message rest running
    cases enabled
    exact ⟨status, message, rest, running, rfl⟩
  · cases enabled

theorem readReturns_cases {state next : State} (enabled : state.readReturns = some next) :
    ∃ status, state.reading = .dispatching status [] ∧
      next = { state with
        receiver :=
          if status = .permanentFailure then state.receiver.terminated else state.receiver
        reading := .idle } := by
  unfold State.readReturns at enabled
  split at enabled
  · rename_i status running
    cases enabled
    exact ⟨status, running, rfl⟩
  · cases enabled

/-! ### Descriptors of the receiving process -/

theorem install_head (table : DescriptorTable) (descriptor : Descriptor)
    (descriptors : List Descriptor) (file : OpenFile) (files : List OpenFile) :
    install table (descriptor :: descriptors) (file :: files) (descriptor.val : Int) =
      some file := by
  simp only [install, if_true]

theorem install_open {table : DescriptorTable} {descriptors : List Descriptor}
    (unused : ∀ descriptor ∈ descriptors, table (descriptor.val : Int) = none)
    (files : List OpenFile) {number : Int} (opened : (table number).isSome = true) :
    install table descriptors files number = table number := by
  induction descriptors generalizing files with
  | nil => cases files <;> rfl
  | cons descriptor rest ih =>
      cases files with
      | nil => rfl
      | cons file others =>
          have different : number ≠ (descriptor.val : Int) := by
            intro same
            rw [same, unused descriptor (List.mem_cons_self ..)] at opened
            contradiction
          have later := ih (fun other member => unused other (List.mem_cons_of_mem _ member)) others
          exact (if_neg different).trans later

def Opened (table : DescriptorTable) (message : Message) : Prop :=
  ∀ attachment ∈ message.attachments, (table attachment.handle).isSome = true

/-- A message that was received keeps its meaning when later descriptors arrive. -/
theorem parcel_install {table : DescriptorTable} {packet : Packet}
    {descriptors : List Descriptor} (installable : Installable table packet descriptors)
    {message : Message} (opened : Opened table message) :
    parcel (install table descriptors packet.files) message = parcel table message := by
  unfold parcel
  congr 1
  apply List.map_congr_left
  intro attachment member
  exact install_open installable.2.2 packet.files (opened attachment member)

/-- A message built for a packet with at most one file means what the packet says. -/
theorem parcel_received {table : DescriptorTable} {packet : Packet}
    {descriptors : List Descriptor} (installable : Installable table packet descriptors)
    (few : packet.files.length ≤ 1) {message : Message}
    (contents : message.contents = packet.payload)
    (attachments : message.attachments = descriptors.map Control.attachmentOf) :
    parcel (install table descriptors packet.files) message = packet.parcel ∧
      Opened (install table descriptors packet.files) message := by
  obtain ⟨sameLength, _, _⟩ := installable
  rcases packet with ⟨payload, files⟩
  cases files with
  | nil =>
      have none_ : descriptors = [] := List.length_eq_zero_iff.mp sameLength
      subst descriptors
      rw [List.map_nil] at attachments
      constructor
      · simp only [parcel, Packet.parcel, contents, attachments, List.map_nil]
      · intro attachment member
        rw [attachments] at member
        contradiction
  | cons file others =>
      have single : others = [] := by
        rw [List.length_cons] at few
        exact List.length_eq_zero_iff.mp (by omega)
      subst others
      obtain ⟨descriptor, one⟩ := List.length_eq_one_iff.mp sameLength
      subst descriptors
      have here : install table [descriptor] [file] (Control.attachmentOf descriptor).handle =
          some file := by
        rw [Control.attachmentOf]
        exact install_head table descriptor [] file []
      constructor
      · simp only [parcel, Packet.parcel, contents, attachments, List.map_cons, List.map_nil, here]
      · intro attachment member
        rw [attachments, List.map_cons, List.map_nil, List.mem_singleton] at member
        rw [member, here]
        rfl

/-! ### The simulation -/

structure Sound (state : State) : Prop where
  sendingSmall : ∀ message point, state.sending = some (message, point) →
    message.size ≤ Channel.maxMessageSize ∧
      message.attachments.length ≤ Message.MaxControlBufferItemCount
  queueSmall : ∀ packet ∈ state.queue, packet.payload.length ≤ MaxBufferSize
  running : state.reading ≠ .aborted
  installed : state.receiver.messageReceivedCallback = true
  opened : ∀ message ∈ state.dispatched ++ state.collected, Opened state.receiverTable message
  shutdown : (state.receiver.handle = -1 ∨
      ∃ messages, state.reading = .dispatching .permanentFailure messages) →
    state.sender.handle = -1 ∧ state.queue = []
  closed : state.receiver.handle = -1 → state.collected = []

/-- The ledger that a state stands for. -/
structure Represents (state : State) (ledger : Ledger Parcel) : Prop where
  accepted : ledger.accepted =
    (state.acknowledged ++ state.inFlight).map (parcel state.senderTable)
  transit : ledger.transit =
    state.collected.map (parcel state.receiverTable) ++ state.queue.map Packet.parcel
  delivered : ledger.delivered = state.dispatched.map (parcel state.receiverTable)

structure Relates (state : State) (ledger : Ledger Parcel) : Prop where
  sound : Sound state
  represents : Represents state ledger

/-- The state is matched after finitely many ledger operations. -/
def Matched (ledger : Ledger Parcel) (next : State) : Prop :=
  ∃ labels after, run Ledger.step ledger labels = some after ∧ Relates next after

theorem Matched.stay {ledger : Ledger Parcel} {next : State} (relates : Relates next ledger) :
    Matched ledger next :=
  ⟨[], ledger, rfl, relates⟩

theorem initial_relates {state : State} (connected : Connected state) :
    Relates state Ledger.empty := by
  refine ⟨⟨?_, ?_, ?_, connected.installed, ?_, ?_, ?_⟩, ⟨?_, ?_, ?_⟩⟩
  · intro message point running
    rw [connected.sending] at running
    contradiction
  · intro packet member
    rw [connected.queue] at member
    contradiction
  · rw [connected.reading]
    nofun
  · intro message member
    rw [connected.dispatched, State.collected, connected.reading] at member
    contradiction
  · rintro (closed | ⟨messages, reading⟩)
    · have opened := connected.receiverOpen
      omega
    · rw [connected.reading] at reading
      contradiction
  · intro closed
    have opened := connected.receiverOpen
    omega
  · rw [State.acknowledged, State.inFlight, connected.returned, connected.sending]
    rfl
  · rw [State.collected, connected.reading, connected.queue]
    rfl
  · rw [connected.dispatched]
    rfl

theorem inFlight_write {state : State} {message : Message} {point : WritePoint}
    (pending : point ≠ .returned .success) : (state.write message point).inFlight = [] := by
  cases point with
  | returned status =>
      cases status with
      | success => exact absurd rfl pending
      | temporaryFailure => rfl
      | permanentFailure => rfl
  | sendmsg => rfl
  | poll => rfl
  | aborted => rfl

private theorem write_relates {state : State} {ledger : Ledger Parcel} {message : Message}
    {point : WritePoint} (relates : Relates state ledger) (idle : state.inFlight = [])
    (small : message.size ≤ Channel.maxMessageSize ∧
      message.attachments.length ≤ Message.MaxControlBufferItemCount)
    (pending : point ≠ .returned .success) :
    Relates (state.write message point) ledger := by
  obtain ⟨sound, represents⟩ := relates
  refine ⟨⟨?_, sound.queueSmall, sound.running, sound.installed, sound.opened, sound.shutdown,
    sound.closed⟩, ⟨?_, represents.transit, represents.delivered⟩⟩
  · intro other position running
    cases running
    exact small
  · rw [inFlight_write pending, represents.accepted, idle]
    rfl

theorem send_matched {state next : State} {ledger : Ledger Parcel} {message : Message}
    (relates : Relates state ledger)
    (few : message.attachments.length ≤ Message.MaxControlBufferItemCount)
    (enabled : step state (.send message) = some next) : Matched ledger next := by
  obtain ⟨free, small, same⟩ := send_cases enabled
  subst next
  have idle : state.inFlight = [] := by rw [State.inFlight, free]
  rw [Channel.enter_small small]
  exact .stay (write_relates relates idle ⟨small, few⟩ nofun)

theorem sendmsgFails_matched {state next : State} {ledger : Ledger Parcel} {errno : Errno}
    (relates : Relates state ledger) (enabled : state.sendmsgFails errno = some next) :
    Matched ledger next := by
  obtain ⟨message, running, same⟩ := sendmsgFails_cases enabled
  subst next
  have idle : state.inFlight = [] := by rw [State.inFlight, running]
  have small := relates.sound.sendingSmall message _ running
  have bounded : message.size ≤ MaxBufferSize := Nat.le_trans small.1 (by decide)
  exact .stay (write_relates relates idle small (afterSendmsg_failure bounded errno))

theorem poll_matched {state next : State} {ledger : Ledger Parcel} {interrupted : Bool}
    (relates : Relates state ledger) (enabled : state.poll interrupted = some next) :
    Matched ledger next := by
  obtain ⟨message, running, same⟩ := poll_cases enabled
  have idle : state.inFlight = [] := by rw [State.inFlight, running]
  have small := relates.sound.sendingSmall message _ running
  rcases same with same | same
  · subst next
    exact .stay (write_relates relates idle small nofun)
  · subst next
    exact .stay (write_relates relates idle small nofun)

private theorem map_snoc {Item Image : Type} (f : Item → Image) (items : List Item) (item : Item) :
    (items ++ [item]).map f = items.map f ++ [f item] := List.map_append

/-- sendmsg finds the control bytes that the writer has written, and recvmsg pops a packet
that the reader of B can take without loss. -/
def Lossless (state : State) : Action → Prop
  | .sendmsgAccepts control => ∀ message point, state.sending = some (message, point) →
      control.length = (WriteMessage.control message).length →
      control = WriteMessage.control message
  | .recvmsg _ => ∀ packet rest, state.queue = packet :: rest →
      packet.payload ≠ [] ∧ packet.files.length ≤ 1 ∧
        (packet.files ≠ [] → state.nullHeader = .yieldsFirst)
  | _ => True

/-- A completed sendmsg is the accept step of the ledger. -/
theorem sendmsgAccepts_matched {state next : State} {ledger : Ledger Parcel}
    {control : List UInt8} (relates : Relates state ledger)
    (lossless : Lossless state (.sendmsgAccepts control))
    (enabled : state.sendmsgAccepts control = some next) : Matched ledger next := by
  obtain ⟨message, packet, running, opened, size, built, same⟩ := sendmsgAccepts_cases enabled
  rw [lossless message _ running size] at built
  obtain ⟨sound, represents⟩ := relates
  subst next
  have small := sound.sendingSmall message _ running
  have bounded : message.size ≤ MaxBufferSize := Nat.le_trans small.1 (by decide)
  have few : message.attachments.length < 2 ^ 32 :=
    Nat.lt_of_le_of_lt small.2 (by decide)
  have meaning := ofMessage_parcel few built
  have payload : packet.payload = message.contents := congrArg Prod.fst meaning
  have idle : state.inFlight = [] := by rw [State.inFlight, running]
  rw [afterSendmsg_complete bounded]
  refine ⟨[.accept packet.parcel], ledger.accept packet.parcel, rfl,
    ⟨⟨?_, ?_, sound.running, sound.installed, sound.opened, ?_, sound.closed⟩, ⟨?_, ?_,
      represents.delivered⟩⟩⟩
  · intro other position found
    cases found
    exact small
  · intro other member
    rcases List.mem_append.mp member with old | new
    · exact sound.queueSmall other old
    · rw [List.mem_singleton] at new
      rw [new, payload, Message.contents_length]
      exact bounded
  · intro ended
    exact absurd (sound.shutdown ended).1 opened
  · change ledger.accepted ++ [packet.parcel] = _
    rw [represents.accepted, idle, List.append_nil, meaning]
    exact (map_snoc _ _ message).symm
  · change ledger.transit ++ [packet.parcel] = _
    rw [represents.transit, List.append_assoc]
    congr 1
    exact (map_snoc _ _ packet).symm

private theorem acknowledged_snoc (returned : List (Message × Bool)) (message : Message)
    (success : Bool) :
    ((returned ++ [(message, success)]).filter Prod.snd).map Prod.fst =
      (returned.filter Prod.snd).map Prod.fst ++ if success then [message] else [] := by
  rw [List.filter_append, List.map_append]
  cases success <;> rfl

theorem sendReturns_matched {state next : State} {ledger : Ledger Parcel}
    (relates : Relates state ledger) (enabled : state.sendReturns = some next) :
    Matched ledger next := by
  obtain ⟨message, status, running, same⟩ := sendReturns_cases enabled
  obtain ⟨sound, represents⟩ := relates
  subst next
  refine .stay ⟨⟨nofun, sound.queueSmall, sound.running, sound.installed, sound.opened, ?_,
    sound.closed⟩, ⟨?_, represents.transit, represents.delivered⟩⟩
  · intro ended
    obtain ⟨gone, empty⟩ := sound.shutdown ended
    refine ⟨?_, empty⟩
    dsimp only
    split
    · rfl
    · exact gone
  · rw [represents.accepted, State.inFlight, running]
    simp only [State.acknowledged, acknowledged_snoc, State.inFlight, List.append_nil]
    cases status with
    | success => rfl
    | temporaryFailure => rfl
    | permanentFailure => rfl

theorem terminateSender_matched {state : State} {ledger : Ledger Parcel}
    (relates : Relates state ledger) :
    Matched ledger { state with sender := state.sender.terminated } := by
  obtain ⟨sound, represents⟩ := relates
  exact .stay ⟨⟨sound.sendingSmall, sound.queueSmall, sound.running, sound.installed,
    sound.opened, fun ended => ⟨rfl, (sound.shutdown ended).2⟩, sound.closed⟩,
    ⟨represents.accepted, represents.transit, represents.delivered⟩⟩

private theorem reading_relates {state : State} {ledger : Ledger Parcel} {reading : Reading}
    (relates : Relates state ledger) (same : reading.collected = state.collected)
    (running : reading ≠ .aborted)
    (ended : ∀ messages, reading = .dispatching .permanentFailure messages →
      state.sender.handle = -1 ∧ state.queue = []) :
    Relates { state with reading := reading } ledger := by
  obtain ⟨sound, represents⟩ := relates
  refine ⟨⟨sound.sendingSmall, sound.queueSmall, running, sound.installed, ?_, ?_, ?_⟩,
    ⟨represents.accepted, ?_, represents.delivered⟩⟩
  · intro message member
    apply sound.opened message
    rw [State.collected] at member
    rw [← same]
    exact member
  · rintro (closed | ⟨messages, found⟩)
    · exact sound.shutdown (Or.inl closed)
    · exact ended messages found
  · intro closed
    exact same.trans (sound.closed closed)
  · rw [represents.transit, ← same]
    rfl

theorem read_matched {state next : State} {ledger : Ledger Parcel}
    (relates : Relates state ledger) (enabled : step state .read = some next) :
    Matched ledger next := by
  obtain ⟨idle, same⟩ := read_cases enabled
  subst next
  exact .stay (reading_relates relates (by rw [State.collected, idle]; rfl) nofun nofun)

theorem recvmsgFails_matched {state next : State} {ledger : Ledger Parcel} {errno : Errno}
    (relates : Relates state ledger) (enabled : state.recvmsgFails errno = some next) :
    Matched ledger next := by
  obtain ⟨messages, receiving, outcome⟩ := recvmsgFails_cases relates.sound.installed enabled
  have batch : state.collected = messages := by rw [State.collected, receiving]; rfl
  rcases outcome with same | ⟨status, temporary, same⟩
  · subst next
    exact .stay (reading_relates relates batch.symm nofun nofun)
  · subst next
    refine .stay (reading_relates relates batch.symm nofun ?_)
    intro others found
    cases found
    exact absurd rfl temporary

/-- Popping such a packet moves it from the queue into the batch. -/
theorem recvmsg_matched {state next : State} {ledger : Ledger Parcel}
    {descriptors : List Descriptor} (relates : Relates state ledger)
    (lossless : Lossless state (.recvmsg descriptors))
    (enabled : state.recvmsg descriptors = some next) : Matched ledger next := by
  obtain ⟨messages, receiving, opened, outcome⟩ := recvmsg_cases relates.sound.installed enabled
  have batch : state.collected = messages := by rw [State.collected, receiving]; rfl
  rcases outcome with ⟨empty, gone, same⟩ | ⟨_, same⟩ | ⟨packet, rest, found, installable, same⟩
  · subst next
    exact .stay (reading_relates relates batch.symm nofun fun _ _ => ⟨gone, empty⟩)
  · subst next
    exact .stay (reading_relates relates batch.symm nofun nofun)
  · obtain ⟨sound, represents⟩ := relates
    obtain ⟨nonempty, few, files⟩ := lossless packet rest found
    have small := sound.queueSmall packet (by rw [found]; exact List.mem_cons_self ..)
    have one : descriptors.length ≤ 1 := by
      rw [installable.1]
      exact few
    have starts : descriptors ≠ [] → state.nullHeader = .yieldsFirst := by
      intro some_
      refine files fun none_ => some_ (List.length_eq_zero_iff.mp ?_)
      rw [installable.1, none_]
      rfl
    obtain ⟨message, received, contents, attachments⟩ :=
      afterRecvmsg_packet messages nonempty small one starts
    obtain ⟨meaning, openedNew⟩ := parcel_received installable few contents attachments
    rw [received] at same
    have kept : ∀ old ∈ state.dispatched ++ messages,
        parcel (install state.receiverTable descriptors packet.files) old =
          parcel state.receiverTable old := by
      intro old member
      rw [← batch] at member
      exact parcel_install installable (sound.opened old member)
    subst next
    refine .stay ⟨⟨sound.sendingSmall, ?_, nofun, sound.installed, ?_, ?_, ?_⟩,
      ⟨represents.accepted, ?_, ?_⟩⟩
    · intro other member
      exact sound.queueSmall other (by rw [found]; exact List.mem_cons_of_mem _ member)
    · intro other member
      change other ∈ state.dispatched ++ (messages ++ [message]) at member
      rw [← List.append_assoc] at member
      rcases List.mem_append.mp member with old | new
      · intro attachment attached
        have before : Opened state.receiverTable other := by
          apply sound.opened other
          rw [batch]
          exact old
        dsimp only
        rw [install_open installable.2.2 packet.files (before attachment attached)]
        exact before attachment attached
      · rw [List.mem_singleton] at new
        rw [new]
        exact openedNew
    · rintro (closed | ⟨others, impossible⟩)
      · exact absurd closed opened
      · cases impossible
    · intro closed
      exact absurd closed opened
    · rw [represents.transit, batch, found, List.map_cons]
      change _ = (messages ++ [message]).map
        (parcel (install state.receiverTable descriptors packet.files)) ++ _
      rw [List.map_append, List.map_cons, List.map_nil, meaning, List.append_assoc]
      congr 1
      apply List.map_congr_left
      intro old member
      exact (kept old (List.mem_append_right _ member)).symm
    · rw [represents.delivered]
      apply List.map_congr_left
      intro old member
      exact (kept old (List.mem_append_left _ member)).symm

/-- A dispatch is the deliver step of the ledger. -/
theorem dispatch_matched {state next : State} {ledger : Ledger Parcel}
    (relates : Relates state ledger) (enabled : state.dispatch = some next) :
    Matched ledger next := by
  obtain ⟨status, message, rest, running, same⟩ := dispatch_cases enabled
  obtain ⟨sound, represents⟩ := relates
  have batch : state.collected = message :: rest := by rw [State.collected, running]; rfl
  subst next
  have head : ledger.transit = parcel state.receiverTable message ::
      (rest.map (parcel state.receiverTable) ++ state.queue.map Packet.parcel) := by
    rw [represents.transit, batch]
    rfl
  obtain ⟨after, delivered, accepted, transit, log⟩ := Ledger.deliver_eq head
  refine ⟨[.deliver], after, ?_, ⟨⟨sound.sendingSmall, sound.queueSmall, nofun, sound.installed,
    ?_, ?_, ?_⟩, ⟨?_, transit, ?_⟩⟩⟩
  · rw [run_cons]
    change Option.bind ledger.deliver _ = _
    rw [delivered]
    rfl
  · intro other member
    apply sound.opened other
    rw [batch]
    change other ∈ (state.dispatched ++ [message]) ++ rest at member
    rw [List.append_assoc] at member
    exact member
  · rintro (closed | ⟨messages, found⟩)
    · exact sound.shutdown (Or.inl closed)
    · cases found
      exact sound.shutdown (Or.inr ⟨_, running⟩)
  · intro closed
    have empty := sound.closed closed
    rw [batch] at empty
    contradiction
  · rw [accepted]
    exact represents.accepted
  · rw [log, represents.delivered]
    exact (map_snoc _ _ message).symm

theorem readReturns_matched {state next : State} {ledger : Ledger Parcel}
    (relates : Relates state ledger) (enabled : state.readReturns = some next) :
    Matched ledger next := by
  obtain ⟨status, running, same⟩ := readReturns_cases enabled
  obtain ⟨sound, represents⟩ := relates
  have batch : state.collected = [] := by rw [State.collected, running]; rfl
  have settled : (if status = .permanentFailure then state.receiver.terminated
      else state.receiver).messageReceivedCallback = true := by
    split
    · exact sound.installed
    · exact sound.installed
  subst next
  refine .stay ⟨⟨sound.sendingSmall, sound.queueSmall, nofun, settled, ?_, ?_, fun _ => rfl⟩,
    ⟨represents.accepted, ?_, represents.delivered⟩⟩
  · intro other member
    apply sound.opened other
    rw [batch]
    exact member
  · rintro (closed | ⟨messages, found⟩)
    · dsimp only at closed
      split at closed
      · rename_i permanent
        subst status
        exact sound.shutdown (Or.inr ⟨_, running⟩)
      · exact sound.shutdown (Or.inl closed)
    · cases found
  · rw [represents.transit, batch]
    rfl

def Sendable : Action → Prop
  | .send message => message.attachments.length ≤ Message.MaxControlBufferItemCount
  | _ => True

/-- Every lossless step of the channel is matched by ledger operations. -/
theorem step_matched {state next : State} {ledger : Ledger Parcel} {action : Action}
    (relates : Relates state ledger) (sendable : Sendable action)
    (lossless : Lossless state action) (enabled : step state action = some next) :
    Matched ledger next := by
  cases action with
  | send message => exact send_matched relates sendable enabled
  | sendmsgFails errno => exact sendmsgFails_matched relates enabled
  | sendmsgAccepts control => exact sendmsgAccepts_matched relates lossless enabled
  | poll interrupted => exact poll_matched relates enabled
  | sendReturns => exact sendReturns_matched relates enabled
  | terminateSender =>
      cases enabled
      exact terminateSender_matched relates
  | read => exact read_matched relates enabled
  | recvmsgFails errno => exact recvmsgFails_matched relates enabled
  | recvmsg descriptors => exact recvmsg_matched relates lossless enabled
  | dispatch => exact dispatch_matched relates enabled
  | readReturns => exact readReturns_matched relates enabled

/-- The channel refines the ledger along every lossless run. -/
theorem run_represents {state final : State} {actions : List Action}
    (connected : Connected state)
    (allowed : Respects step (fun current action => Sendable action ∧ Lossless current action)
      state actions)
    (performed : run step state actions = some final) :
    ∃ labels ledger, run Ledger.step Ledger.empty labels = some ledger ∧
      Relates final ledger :=
  run_simulates
    (fun _ _ _ _ relates within enabled => step_matched relates within.1 within.2 enabled)
    (initial_relates connected) allowed performed

end CoreLib.Delivery
