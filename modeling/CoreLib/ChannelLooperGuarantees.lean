/-
When a message reaches the callback of a channel that a looper reads.

A message that has been sent is in the queue of its link.  The link is readable, so its source
is in the kernel's ready list and each other source is dispatched at most once before it; and
the reader that is then entered does not return before the queue is empty and everything it
took has been handed over.
-/

import CoreLib.ChannelLooper

set_option autoImplicit false

namespace CoreLib.ChannelLooper

open Foundation Socket Delivery Rendezvous

/-! ### One link -/

def given (link : Delivery.State) : List (List UInt8) :=
  link.dispatched.map Message.contents

structure Healthy (table : DescriptorTable) (link : Delivery.State) : Prop where
  relates : ∃ ledger, Delivery.Relates link ledger
  carries : Carries Plain table link

def Receives (link : Delivery.State) : Prop :=
  ∃ messages, link.reading = .receiving messages

/-- The reader hands over its batch, and with that the callback has been given everything. -/
def Holds (wanted : List (List UInt8)) (link : Delivery.State) : Prop :=
  (∃ status messages, link.reading = .dispatching status messages) ∧
    wanted <+: (link.dispatched ++ link.collected).map Message.contents

section Link

variable {table : DescriptorTable} {link next : Delivery.State} {moved : Delivery.Action}
  {wanted : List (List UInt8)}

theorem Healthy.moves (healthy : Healthy table link) (sends : Sends Plain table moved)
    (enabled : Delivery.step link moved = some next) :
    Healthy table next ∧ link.sent <+: next.sent ∧ given link <+: given next := by
  obtain ⟨⟨ledger, relates⟩, carries⟩ := healthy
  have lossless := carries.lossless moved
  obtain ⟨labels, after, ran, related⟩ :=
    step_matched relates sends.sendable lossless enabled
  obtain ⟨accepted, delivered⟩ := Ledger.run_grows ran
  have sent := accepted.map Prod.fst
  have handed := delivered.map Prod.fst
  rw [relates.represents.accepted, related.represents.accepted, List.map_map,
    List.map_map] at sent
  rw [relates.represents.delivered, related.represents.delivered, List.map_map,
    List.map_map] at handed
  exact ⟨⟨⟨after, related⟩, carries.step sends lossless enabled⟩, sent, handed⟩

theorem Healthy.payloads (healthy : Healthy table link) :
    (link.dispatched ++ link.collected).map Message.contents ++
      link.queue.map Packet.payload = link.sent := by
  obtain ⟨⟨ledger, relates⟩, _⟩ := healthy
  have payloads := relates.conserved.payloads
  rw [State.underWay, ← List.append_assoc, ← List.map_append] at payloads
  exact payloads

theorem Healthy.holds (healthy : Healthy table link) (wanting : wanted <+: link.sent)
    (empty : link.queue = []) {status : Status} {messages : List Message}
    (here : link.reading = .dispatching status messages) : Holds wanted link := by
  have payloads := healthy.payloads
  rw [empty, List.map_nil, List.append_nil] at payloads
  rw [← payloads] at wanting
  exact ⟨⟨status, messages, here⟩, wanting⟩

theorem Healthy.ready (healthy : Healthy table link) (queued : link.queue ≠ []) :
    readable link = true := by
  obtain ⟨⟨ledger, relates⟩, _⟩ := healthy
  rw [readable_iff]
  exact ⟨fun closed => queued (relates.sound.shutdown (Or.inl closed)).2, Or.inl queued⟩

/-- Only the reader takes packets, and only while it receives. -/
theorem queue_stays (rests : ¬ Receives link) (inside : moved ≠ .read)
    (healthy : Healthy table link) (enabled : Delivery.step link moved = some next) :
    link.queue <+: next.queue ∧ ¬ Receives next := by
  have installed := healthy.carries.installed
  cases moved with
  | send message =>
      obtain ⟨_, _, same⟩ := send_cases enabled
      subst next
      exact ⟨List.prefix_rfl, rests⟩
  | sendmsgFails errno =>
      obtain ⟨_, _, same⟩ := sendmsgFails_cases enabled
      subst next
      exact ⟨List.prefix_rfl, rests⟩
  | sendmsgAccepts control =>
      obtain ⟨_, _, _, _, _, _, same⟩ := sendmsgAccepts_cases enabled
      subst next
      exact ⟨List.prefix_append _ _, rests⟩
  | poll interrupted =>
      obtain ⟨_, _, same | same⟩ := poll_cases enabled
      · subst next
        exact ⟨List.prefix_rfl, rests⟩
      · subst next
        exact ⟨List.prefix_rfl, rests⟩
  | sendReturns =>
      obtain ⟨_, _, _, same⟩ := sendReturns_cases enabled
      subst next
      exact ⟨List.prefix_rfl, rests⟩
  | terminateSender =>
      cases enabled
      exact ⟨List.prefix_rfl, rests⟩
  | read => contradiction
  | recvmsgFails errno =>
      obtain ⟨messages, receiving, _⟩ := recvmsgFails_cases installed enabled
      exact absurd ⟨messages, receiving⟩ rests
  | recvmsg descriptors =>
      obtain ⟨messages, receiving, _⟩ := recvmsg_cases installed enabled
      exact absurd ⟨messages, receiving⟩ rests
  | dispatch =>
      obtain ⟨_, _, _, _, same⟩ := dispatch_cases enabled
      subst next
      refine ⟨List.prefix_rfl, ?_⟩
      rintro ⟨messages, impossible⟩
      contradiction
  | readReturns =>
      obtain ⟨_, _, same⟩ := readReturns_cases enabled
      subst next
      refine ⟨List.prefix_rfl, ?_⟩
      rintro ⟨messages, impossible⟩
      contradiction

theorem receiver_stays (healthy : Healthy table link)
    (enabled : Delivery.step link moved = some next) (opened : next.receiver.handle ≠ -1) :
    link.receiver.handle ≠ -1 := by
  have installed := healthy.carries.installed
  by_cases side : ofSender moved = true
  · rw [← (step_ofSender side enabled).2.2]
    exact opened
  · cases moved with
    | read =>
        obtain ⟨_, same⟩ := read_cases enabled
        subst next
        exact opened
    | recvmsgFails errno =>
        obtain ⟨_, _, same | ⟨_, _, same⟩⟩ := recvmsgFails_cases installed enabled
        · subst next
          exact opened
        · subst next
          exact opened
    | recvmsg descriptors =>
        obtain ⟨_, _, here, _⟩ := recvmsg_cases installed enabled
        exact here
    | dispatch =>
        obtain ⟨_, _, _, _, same⟩ := dispatch_cases enabled
        subst next
        exact opened
    | readReturns =>
        obtain ⟨status, _, same⟩ := readReturns_cases enabled
        subst next
        dsimp only at opened
        split at opened
        · exact absurd rfl opened
        · exact opened
    | _ => contradiction

theorem sender_stays (side : ofSender moved = true) : leaves moved = false := by
  cases moved <;> first | rfl | contradiction

/-- Until it returns, the reader takes or holds all that is wanted, and then that is given. -/
theorem reader_keeps (healthy : Healthy table link) (after : Healthy table next)
    (wanting : wanted <+: next.sent) (inside : Receives link ∨ Holds wanted link)
    (patient : ∀ errno, moved = .recvmsgFails errno → errno = .EINTR)
    (enabled : Delivery.step link moved = some next) :
    (leaves moved = false ∧ (Receives next ∨ Holds wanted next)) ∨
      (leaves moved = true ∧ wanted <+: given next) := by
  have installed := healthy.carries.installed
  by_cases side : ofSender moved = true
  · obtain ⟨reading, dispatched, _⟩ := step_ofSender side enabled
    refine Or.inl ⟨sender_stays side, ?_⟩
    rw [Receives, Holds, State.collected, reading, dispatched]
    exact inside
  · cases moved with
    | read =>
        obtain ⟨idle, _⟩ := read_cases enabled
        rcases inside with ⟨messages, receiving⟩ | ⟨⟨status, messages, handing⟩, _⟩
        · rw [idle] at receiving
          contradiction
        · rw [idle] at handing
          contradiction
    | recvmsgFails errno =>
        cases patient errno rfl
        obtain ⟨messages, receiving, _⟩ := recvmsgFails_cases installed enabled
        refine Or.inl ⟨rfl, Or.inl ⟨messages, ?_⟩⟩
        simp only [Delivery.step, State.recvmsgFails, receiving] at enabled
        split at enabled
        · contradiction
        · cases enabled
          rfl
    | recvmsg descriptors =>
        refine Or.inl ⟨rfl, ?_⟩
        obtain ⟨messages, receiving, _, ⟨empty, _, same⟩ | ⟨empty, same⟩ |
          ⟨packet, rest, found, installable, same⟩⟩ := recvmsg_cases installed enabled
        · exact Or.inr (after.holds wanting (by rw [same]; exact empty) (by rw [same]))
        · exact Or.inr (after.holds wanting (by rw [same]; exact empty) (by rw [same]))
        · obtain ⟨⟨ledger, relates⟩, carries⟩ := healthy
          have plain := carries.queue packet (by rw [found]; exact List.mem_cons_self ..)
          have none_ : descriptors = [] := by
            apply List.length_eq_zero_iff.mp
            rw [installable.1, Packet_parcel_bare.mp plain.2]
            rfl
          subst none_
          have small := relates.sound.queueSmall packet (by rw [found]; exact List.mem_cons_self ..)
          obtain ⟨message, received, _⟩ :=
            afterRecvmsg_packet messages plain.1 small (List.length_nil.trans_le (Nat.zero_le 1))
              (absurd rfl)
          rw [received] at same
          exact Or.inl ⟨messages ++ [message], by rw [same]; rfl⟩
    | dispatch =>
        obtain ⟨status, message, rest, handing, same⟩ := dispatch_cases enabled
        rcases inside with ⟨messages, receiving⟩ | ⟨_, held⟩
        · rw [handing] at receiving
          contradiction
        · subst next
          refine Or.inl ⟨rfl, Or.inr ⟨⟨status, rest, rfl⟩, ?_⟩⟩
          simpa [State.collected, handing, Reading.collected] using held
    | readReturns =>
        obtain ⟨status, handing, same⟩ := readReturns_cases enabled
        rcases inside with ⟨messages, receiving⟩ | ⟨_, held⟩
        · rw [handing] at receiving
          contradiction
        · subst next
          refine Or.inr ⟨rfl, ?_⟩
          simpa [given, State.collected, handing, Reading.collected] using held
    | _ => contradiction

end Link

/-! ### The looper and its links -/

variable {Id Other : Type} [DecidableEq Id] [DecidableEq Other]

/-- The list of ready sources is right, each level is what a poll of the link says, and the
links that are being read are the one whose reader runs. -/
structure Coherent (handle : Source Id Other → Int) (tables : Id → DescriptorTable)
    (state : State Id Other) : Prop where
  injective : Function.Injective handle
  listed : LooperFairness.Sound handle state.looper.waitSet.sources state.looper.waitSet.kernel
  opened : ∀ id, (state.links id).receiver.handle ≠ -1 →
    state.looper.waitSet.kernel.opened (handle (.channel id)) = true
  level : ∀ id, state.looper.waitSet.kernel.level (handle (.channel id)) =
    readable (state.links id)
  point : ∀ id, state.reading = some id ↔ (state.links id).reading ≠ .idle
  healthy : ∀ id, Healthy (tables id) (state.links id)

/-- The messages have payload and no attachments. -/
def Modest : Action Id Other → Prop
  | .transfer _ (.send message) => 0 < message.size ∧ message.attachments = []
  | _ => True

omit [DecidableEq Id] [DecidableEq Other] in
theorem Modest.sends {id : Id} {moved : Delivery.Action}
    (modest : Modest (.transfer id moved : Action Id Other)) (table : DescriptorTable) :
    Sends Plain table moved := by
  cases moved with
  | send message => exact sends_modest table modest.1 modest.2
  | _ => exact trivial

section Steps

variable {handle : Source Id Other → Int} {tables : Id → DescriptorTable}
  {state next : State Id Other} {action : Action Id Other}

def Spares (number : Int) (moved : LooperFairness.Action (Source Id Other)) : Prop :=
  moved ≠ .signal number ∧ moved ≠ .drain number ∧ moved ≠ .closeNumber number ∧
    moved ≠ .openNumber number

theorem kernel_spares {looper after : LooperFairness.State (Source Id Other)}
    {moved : LooperFairness.Action (Source Id Other)} {number : Int}
    (spares : Spares number moved)
    (enabled : LooperFairness.step handle looper moved = some after) :
    after.waitSet.kernel.level number = looper.waitSet.kernel.level number ∧
      after.waitSet.kernel.opened number = looper.waitSet.kernel.opened number := by
  obtain ⟨noSignal, noDrain, noClose, noOpen⟩ := spares
  cases moved with
  | openNumber other =>
      obtain ⟨_, same⟩ := Option.ite_none_left_eq_some.mp enabled
      cases same
      have different : number ≠ other := fun same => noOpen (by rw [same])
      exact ⟨Function.update_of_ne different .., Function.update_of_ne different ..⟩
  | closeNumber other =>
      cases enabled
      have different : number ≠ other := fun same => noClose (by rw [same])
      exact ⟨Function.update_of_ne different .., Function.update_of_ne different ..⟩
  | signal other =>
      cases enabled
      have different : number ≠ other := fun same => noSignal (by rw [same])
      simp only [LooperFairness.State.setKernel, LooperFairness.ReadyList.signal]
      split
      · exact ⟨Function.update_of_ne different .., rfl⟩
      · exact ⟨rfl, rfl⟩
  | drain other =>
      cases enabled
      have different : number ≠ other := fun same => noDrain (by rw [same])
      exact ⟨Function.update_of_ne different .., rfl⟩
  | addSource source =>
      cases enabled
      rcases WaitSet.addSource_cases (LooperFairness.ReadyList.update handle) looper.waitSet
        source with ⟨_, unchanged⟩ | ⟨_, _, _, kernel⟩
      · rw [unchanged]
        exact ⟨rfl, rfl⟩
      · rw [kernel, LooperFairness.ReadyList.update_level,
          LooperFairness.ReadyList.update_opened]
        exact ⟨rfl, rfl⟩
  | removeSource source =>
      cases enabled
      rcases WaitSet.removeSource_cases (LooperFairness.ReadyList.update handle) looper.waitSet
        source with ⟨_, unchanged⟩ | ⟨_, _, _, kernel⟩
      · rw [unchanged]
        exact ⟨rfl, rfl⟩
      · rw [kernel, LooperFairness.ReadyList.update_level,
          LooperFairness.ReadyList.update_opened]
        exact ⟨rfl, rfl⟩
  | dispatch =>
      obtain ⟨returned, waited, same⟩ := Option.map_eq_some_iff.mp enabled
      obtain ⟨served, _, equal⟩ := Option.map_eq_some_iff.mp waited
      subst returned after
      exact ⟨rfl, rfl⟩

theorem dispatched_stays {looper after : LooperFairness.State (Source Id Other)}
    {moved : LooperFairness.Action (Source Id Other)} (quiet : moved ≠ .dispatch)
    (enabled : LooperFairness.step handle looper moved = some after) :
    after.dispatched = looper.dispatched := by
  cases moved with
  | dispatch => contradiction
  | openNumber number =>
      obtain ⟨_, same⟩ := Option.ite_none_left_eq_some.mp enabled
      cases same
      rfl
  | _ =>
      cases enabled
      rfl

theorem level_polled {looper after : LooperFairness.State (Source Id Other)} {id : Id}
    {link : Delivery.State}
    (opened : link.receiver.handle ≠ -1 →
      looper.waitSet.kernel.opened (handle (.channel id)) = true)
    (enabled : LooperFairness.step handle looper (poll handle id link) = some after) :
    after.waitSet.kernel.level (handle (.channel id)) = readable link ∧
      (link.receiver.handle ≠ -1 →
        after.waitSet.kernel.opened (handle (.channel id)) = true) := by
  unfold poll at enabled
  split at enabled
  · rename_i closed
    cases enabled
    refine ⟨(Function.update_self ..).trans ?_, fun still => absurd closed still⟩
    simp [readable, closed]
  · rename_i still
    split at enabled
    · rename_i lit
      cases enabled
      simp only [LooperFairness.State.setKernel, LooperFairness.ReadyList.signal,
        opened still, if_true]
      exact ⟨(Function.update_self ..).trans lit.symm, fun _ => trivial⟩
    · rename_i dark
      cases enabled
      rw [Bool.not_eq_true] at dark
      exact ⟨(Function.update_self ..).trans dark.symm, opened⟩

omit [DecidableEq Id] [DecidableEq Other] in
theorem ofWaitSet_apart (injective : Function.Injective handle)
    {moved : LooperFairness.Action (Source Id Other)}
    (asked : ofWaitSet handle action = some moved) (id : Id) :
    Spares (handle (.channel id)) moved ∧ moved ≠ .dispatch := by
  have apart : ∀ other, handle (.other other) ≠ handle (.channel id) := by
    intro other same
    have impossible := injective same
    contradiction
  cases action <;> cases asked <;> simp [Spares, apart]

omit [DecidableEq Id] [DecidableEq Other] in
theorem ofWaitSet_orderly {moved : LooperFairness.Action (Source Id Other)}
    (asked : ofWaitSet handle action = some moved) (number : Int) :
    moved ≠ .openNumber number := by
  cases action <;> cases asked <;> simp

omit [DecidableEq Id] [DecidableEq Other] in
theorem poll_apart (injective : Function.Injective handle) {id other : Id}
    (different : other ≠ id) (link : Delivery.State) :
    Spares (handle (.channel other)) (poll handle id link) := by
  have apart : handle (.channel id) ≠ handle (.channel other) := by
    intro same
    exact different (Source.channel.inj (injective same)).symm
  unfold poll Spares
  split
  · simp [apart]
  · split <;> simp [apart]

omit [DecidableEq Id] [DecidableEq Other] in
theorem poll_orderly (id : Id) (link : Delivery.State) (number : Int) :
    poll handle id link ≠ .openNumber number := by
  unfold poll
  split
  · simp
  · split <;> simp

omit [DecidableEq Id] [DecidableEq Other] in
theorem poll_quiet (id : Id) (link : Delivery.State) : poll handle id link ≠ .dispatch := by
  unfold poll
  split
  · simp
  · split <;> simp

omit [DecidableEq Id] [DecidableEq Other] in
theorem poll_keeps (id : Id) (link : Delivery.State) (source : Source Id Other) :
    poll handle id link ≠ .removeSource source := by
  unfold poll
  split
  · simp
  · split <;> simp

/-- The reader of a link is outside exactly when it has returned. -/
theorem reading_after {link after : Delivery.State} {moved : Delivery.Action}
    (side : ofSender moved = false) (entered : moved ≠ .read)
    (enabled : Delivery.step link moved = some after) :
    after.reading = .idle ↔ leaves moved = true := by
  have inside : ∀ point, link.resume point ≠ .idle := by
    intro point
    cases point <;> simp [State.resume, Reading.ofPoint]
  cases moved with
  | recvmsgFails errno =>
      simp only [Delivery.step, State.recvmsgFails] at enabled
      split at enabled
      · split at enabled
        · contradiction
        · cases enabled
          simpa [leaves] using inside _
      · contradiction
  | recvmsg descriptors =>
      simp only [Delivery.step, State.recvmsg] at enabled
      split at enabled
      · split at enabled
        · contradiction
        · split at enabled
          · cases enabled
            simpa [leaves] using inside _
          · split at enabled
            · cases enabled
              simpa [leaves] using inside _
            · contradiction
      · contradiction
  | dispatch =>
      obtain ⟨_, _, _, _, same⟩ := dispatch_cases enabled
      simp [same, leaves]
  | readReturns =>
      obtain ⟨_, _, same⟩ := readReturns_cases enabled
      simp [same, leaves]
  | _ => contradiction

omit [DecidableEq Id] [DecidableEq Other] in
theorem Coherent.idle (coherent : Coherent handle tables state) (free : state.reading = none)
    (id : Id) : (state.links id).reading = .idle := by
  have outside := (coherent.point id).not
  rw [free] at outside
  simpa using outside

theorem Coherent.polled (coherent : Coherent handle tables state) {id : Id}
    {moved : Delivery.Action} {link : Delivery.State}
    (moves : Delivery.step (state.links id) moved = some link)
    {looper : LooperFairness.State (Source Id Other)}
    (enabled : LooperFairness.step handle state.looper (poll handle id link) = some looper) :
    LooperFairness.Sound handle looper.waitSet.sources looper.waitSet.kernel ∧
      (∀ other, (Function.update state.links id link other).receiver.handle ≠ -1 →
        looper.waitSet.kernel.opened (handle (.channel other)) = true) ∧
      ∀ other, looper.waitSet.kernel.level (handle (.channel other)) =
        readable (Function.update state.links id link other) := by
  have orderly : LooperFairness.Orderly handle state.looper (poll handle id link) :=
    LooperFairness.orderly_of_injective coherent.injective (poll_orderly id link) _
  obtain ⟨level, opened⟩ := level_polled
    (fun still => coherent.opened id (receiver_stays (coherent.healthy id) moves still)) enabled
  refine ⟨coherent.listed.step orderly enabled, fun other => ?_, fun other => ?_⟩
  · by_cases same : other = id
    · rw [same, Function.update_self]
      exact opened
    · have spares := kernel_spares (poll_apart coherent.injective same link) enabled
      rw [Function.update_of_ne same, spares.2]
      exact coherent.opened other
  · by_cases same : other = id
    · rw [same, Function.update_self]
      exact level
    · have spares := kernel_spares (poll_apart coherent.injective same link) enabled
      rw [Function.update_of_ne same, spares.1]
      exact coherent.level other

omit [DecidableEq Id] [DecidableEq Other] in
theorem Coherent.inside (coherent : Coherent handle tables state) {id : Id}
    {moved : Delivery.Action} {link : Delivery.State}
    (turn : ofSender moved = true ∨ state.reading = some id)
    (enabled : Delivery.step (state.links id) moved = some link) : moved ≠ .read := by
  intro reads
  subst reads
  rcases turn with side | running
  · contradiction
  · exact (coherent.point id).mp running (read_cases enabled).1

omit [DecidableEq Other] in
theorem Coherent.point_after (coherent : Coherent handle tables state) {id : Id}
    {moved : Delivery.Action} {link : Delivery.State}
    (turn : ofSender moved = true ∨ state.reading = some id)
    (enabled : Delivery.step (state.links id) moved = some link) (other : Id) :
    (if leaves moved then none else state.reading) = some other ↔
      (Function.update state.links id link other).reading ≠ .idle := by
  cases side : ofSender moved with
  | true =>
      rw [sender_stays side, if_neg Bool.false_ne_true, coherent.point other]
      by_cases same : other = id
      · rw [same, Function.update_self, (step_ofSender side enabled).1]
      · rw [Function.update_of_ne same]
  | false =>
      have running : state.reading = some id :=
        turn.resolve_left (by rw [side]; exact Bool.false_ne_true)
      have after := reading_after side (coherent.inside turn enabled) enabled
      by_cases same : other = id
      · rw [same, Function.update_self, Ne, after, running]
        simp
      · have outside := (coherent.point other).not
        rw [running, Option.some.injEq] at outside
        rw [Function.update_of_ne same, ← outside.not_left, running]
        simp [Ne.symm same]

omit [DecidableEq Other] in
theorem Coherent.healthy_after (coherent : Coherent handle tables state) {id : Id}
    {moved : Delivery.Action} {link : Delivery.State} (sends : ∀ table, Sends Plain table moved)
    (enabled : Delivery.step (state.links id) moved = some link) (other : Id) :
    Healthy (tables other) (Function.update state.links id link other) := by
  by_cases same : other = id
  · rw [same, Function.update_self]
    exact ((coherent.healthy id).moves (sends _) enabled).1
  · rw [Function.update_of_ne same]
    exact coherent.healthy other

theorem Coherent.kept (coherent : Coherent handle tables state)
    {moved : LooperFairness.Action (Source Id Other)}
    {looper : LooperFairness.State (Source Id Other)}
    (spares : ∀ id, Spares (handle (.channel id)) moved)
    (taken : ∀ number, moved ≠ .openNumber number)
    (enabled : LooperFairness.step handle state.looper moved = some looper) :
    Coherent handle tables { state with looper := looper } := by
  have orderly := LooperFairness.orderly_of_injective coherent.injective taken state.looper
  refine ⟨coherent.injective, coherent.listed.step orderly enabled, fun id => ?_,
    fun id => ?_, coherent.point, coherent.healthy⟩
  · rw [(kernel_spares (spares id) enabled).2]
    exact coherent.opened id
  · rw [(kernel_spares (spares id) enabled).1]
    exact coherent.level id

theorem Coherent.step (coherent : Coherent handle tables state) (modest : Modest action)
    (transition : Transition handle state action next) : Coherent handle tables next := by
  cases transition with
  | transfers id moved link looper turn enabled polled =>
      obtain ⟨listed, opened, level⟩ := coherent.polled enabled polled
      exact ⟨coherent.injective, listed, opened, level, coherent.point_after turn enabled,
        coherent.healthy_after modest.sends enabled⟩
  | changes _ moved looper asked enabled =>
      exact coherent.kept (fun id => (ofWaitSet_apart coherent.injective asked id).1)
        (ofWaitSet_orderly asked) enabled
  | refuses id => exact coherent
  | dispatches other looper free enabled last =>
      exact coherent.kept (by simp [Spares]) (by simp) enabled
  | enters id link looper free enabled last entered =>
      have sends : ∀ table, Sends Plain table .read := fun _ => trivial
      have healthy := coherent.healthy_after sends entered
      have kept := coherent.kept (by simp [Spares]) (by simp) enabled
      obtain ⟨idle, same⟩ := read_cases entered
      subst same
      refine ⟨kept.injective, kept.listed, fun other => ?_, fun other => ?_, fun other => ?_,
        healthy⟩
      · intro still
        apply kept.opened other
        by_cases same : other = id
        · rw [same] at still ⊢
          simpa using still
        · simpa [same] using still
      · rw [kept.level other]
        dsimp only
        by_cases same : other = id
        · rw [same, Function.update_self]
          rfl
        · rw [Function.update_of_ne same]
      · by_cases same : other = id
        · simp [same]
        · simp [Function.update_of_ne same, Ne.symm same, coherent.idle free other]

/-! ### One message -/

def Few (origin : State Id Other) (id : Id) (others : List (Source Id Other)) : Prop :=
  .channel id ∉ others ∧ others.Nodup ∧ others.length < origin.looper.waitSet.sources.length

/-- The packets of the channel wait, and the sources dispatched since `origin` were ahead of
it in the ready list. -/
structure Queued (origin : State Id Other) (id : Id) (state : State Id Other)
    (bypassing : List (Source Id Other)) : Prop where
  listed : .channel id ∈ origin.looper.waitSet.kernel.ready
  dispatched : state.looper.dispatched = origin.looper.dispatched ++ bypassing
  outside : .channel id ∉ bypassing
  member : .channel id ∈ state.looper.waitSet.sources
  passing : Rotation.Passing origin.looper.waitSet.kernel.ready (.channel id)
    state.looper.waitSet.kernel.ready bypassing
  waiting : (state.links id).queue ≠ []
  resting : ¬ Receives (state.links id)

/-- The reader of the channel runs and has not returned since `origin`. -/
structure Attended (origin : State Id Other) (id : Id) (state : State Id Other) : Prop where
  running : state.reading = some id
  inside : Receives (state.links id) ∨ Holds (origin.links id).sent (state.links id)
  few : ∃ others, Few origin id others ∧
    (state.looper.dispatched = origin.looper.dispatched ++ others ∨
      state.looper.dispatched = origin.looper.dispatched ++ (others ++ [.channel id]))

/-- What had been sent at `origin` is queued, in the hands of the reader, or given. -/
structure Prompt (origin : State Id Other) (id : Id) (state : State Id Other) : Prop where
  sent : (origin.links id).sent <+: (state.links id).sent
  grown : origin.looper.dispatched <+: state.looper.dispatched
  phase : (∃ bypassing, Queued origin id state bypassing) ∨ Attended origin id state ∨
    (origin.links id).sent <+: given (state.links id)

/-- The channel stays scheduled, and its recvmsg calls fail only by interruption. -/
def Attends (id : Id) (action : Action Id Other) : Prop :=
  action ≠ .unscheduleFromLooper id ∧
    ∀ errno, action = .transfer id (.recvmsgFails errno) → errno = .EINTR

variable {origin : State Id Other} {id : Id}

omit [DecidableEq Id] [DecidableEq Other] in
theorem Queued.few {bypassing : List (Source Id Other)}
    (queued : Queued origin id state bypassing) (coherent : Coherent handle tables origin) :
    Few origin id bypassing := by
  obtain ⟨once, _, fewer⟩ := queued.passing.bounded queued.listed
  exact ⟨queued.outside, once, fewer.trans_le
    (List.subperm_of_subset coherent.listed.once fun _ => coherent.listed.member).length_le⟩

omit [DecidableEq Id] [DecidableEq Other] in
theorem Coherent.lit (coherent : Coherent handle tables state)
    (waiting : (state.links id).queue ≠ []) :
    state.looper.waitSet.kernel.level (handle (.channel id)) = true := by
  rw [coherent.level id]
  exact (coherent.healthy id).ready waiting

omit [DecidableEq Id] [DecidableEq Other] in
theorem Prompt.begin (coherent : Coherent handle tables origin)
    (scheduled : .channel id ∈ origin.looper.waitSet.sources) : Prompt origin id origin := by
  refine ⟨List.prefix_rfl, List.prefix_rfl, ?_⟩
  have none_ : Few origin id [] := by
    refine ⟨List.not_mem_nil, List.nodup_nil, ?_⟩
    exact List.length_pos_of_mem scheduled
  have running : (origin.links id).reading ≠ .idle → origin.reading = some id :=
    (coherent.point id).mpr
  have healthy := coherent.healthy id
  have few : ∃ others, Few origin id others ∧
      (origin.looper.dispatched = origin.looper.dispatched ++ others ∨
        origin.looper.dispatched = origin.looper.dispatched ++ (others ++ [.channel id])) :=
    ⟨[], none_, Or.inl (List.append_nil _).symm⟩
  by_cases receiving : Receives (origin.links id)
  · obtain ⟨messages, here⟩ := receiving
    refine Or.inr (Or.inl ⟨running (by simp [here]), Or.inl ⟨messages, here⟩, few⟩)
  · by_cases empty : (origin.links id).queue = []
    · cases here : (origin.links id).reading with
      | idle =>
          have payloads := healthy.payloads
          rw [empty, State.collected, here, Reading.collected, List.map_nil, List.append_nil,
            List.append_nil] at payloads
          refine Or.inr (Or.inr ?_)
          rw [← payloads]
          exact List.prefix_rfl
      | receiving messages => exact absurd ⟨messages, here⟩ receiving
      | dispatching status messages =>
          exact Or.inr (Or.inl ⟨running (by simp [here]),
            Or.inr (healthy.holds List.prefix_rfl empty here), few⟩)
      | aborted =>
          obtain ⟨ledger, relates⟩ := healthy.relates
          exact absurd here relates.sound.running
    · have ready := coherent.listed.complete _ scheduled (coherent.lit empty)
      exact Or.inl ⟨[], ready, (List.append_nil _).symm, List.not_mem_nil, scheduled,
        .begin coherent.listed.once ready, empty, receiving⟩

/-- A step of the looper that leaves the channel alone keeps its place. -/
theorem Queued.keeps {bypassing : List (Source Id Other)}
    (queued : Queued origin id state bypassing) (coherent : Coherent handle tables state)
    {moved : LooperFairness.Action (Source Id Other)}
    {looper : LooperFairness.State (Source Id Other)}
    (enabled : LooperFairness.step handle state.looper moved = some looper)
    (leaves : LooperFairness.Leaves handle (.channel id) moved)
    {served : List (Source Id Other)} (last : looper.dispatched = state.looper.dispatched ++ served)
    (others : .channel id ∉ served) {links : Id → Delivery.State} {reading : Option Id}
    (waiting : (links id).queue ≠ []) (resting : ¬ Receives (links id)) :
    Queued origin id { looper := looper, links := links, reading := reading }
      (bypassing ++ served) := by
  have bypassed : LooperFairness.Bypassed handle origin.looper.waitSet.kernel.ready
      origin.looper.dispatched (.channel id) state.looper :=
    ⟨bypassing, queued.dispatched,
      fun _ => ⟨queued.member, coherent.lit queued.waiting, queued.passing⟩⟩
  obtain ⟨after, dispatched, waits⟩ := bypassed.step coherent.listed enabled leaves
  have same : after = bypassing ++ served := by
    rw [last, queued.dispatched, List.append_assoc] at dispatched
    exact (List.append_cancel_left dispatched).symm
  subst same
  have outside : .channel id ∉ bypassing ++ served := by
    rw [List.mem_append, not_or]
    exact ⟨queued.outside, others⟩
  obtain ⟨member, _, passing⟩ := waits outside
  exact ⟨queued.listed, dispatched, outside, member, passing, waiting, resting⟩

theorem Queued.bypassed {bypassing : List (Source Id Other)}
    (queued : Queued origin id state bypassing) (coherent : Coherent handle tables state)
    {moved : LooperFairness.Action (Source Id Other)}
    {looper : LooperFairness.State (Source Id Other)}
    (enabled : LooperFairness.step handle state.looper moved = some looper)
    (leaves : LooperFairness.Leaves handle (.channel id) moved)
    {served : List (Source Id Other)} (last : looper.dispatched = state.looper.dispatched ++ served)
    (others : .channel id ∉ served) {links : Id → Delivery.State} {reading : Option Id}
    (unchanged : links id = state.links id) :
    Queued origin id { looper := looper, links := links, reading := reading }
      (bypassing ++ served) := by
  refine queued.keeps coherent enabled leaves last others ?_ ?_
  · rw [unchanged]
    exact queued.waiting
  · rw [unchanged]
    exact queued.resting

omit [DecidableEq Other] in
/-- No link takes back what has been sent or given. -/
theorem Coherent.link_grows (coherent : Coherent handle tables state) {number : Id}
    {moved : Delivery.Action} {link : Delivery.State} (sends : ∀ table, Sends Plain table moved)
    (enabled : Delivery.step (state.links number) moved = some link) (id : Id) :
    (state.links id).sent <+: (Function.update state.links number link id).sent ∧
      given (state.links id) <+: given (Function.update state.links number link id) := by
  by_cases same : id = number
  · rw [same, Function.update_self]
    exact ((coherent.healthy number).moves (sends _) enabled).2
  · rw [Function.update_of_ne same]
    exact ⟨List.prefix_rfl, List.prefix_rfl⟩

theorem Coherent.grows (coherent : Coherent handle tables state) (modest : Modest action)
    (transition : Transition handle state action next) (id : Id) :
    (state.links id).sent <+: (next.links id).sent ∧
      given (state.links id) <+: given (next.links id) ∧
      state.looper.dispatched <+: next.looper.dispatched := by
  cases transition with
  | transfers number moved link looper turn enabled polled =>
      obtain ⟨sent, handed⟩ := coherent.link_grows modest.sends enabled id
      refine ⟨sent, handed, ?_⟩
      dsimp only
      rw [dispatched_stays (poll_quiet number link) polled]
  | changes _ moved looper asked enabled =>
      refine ⟨List.prefix_rfl, List.prefix_rfl, ?_⟩
      dsimp only
      rw [dispatched_stays (ofWaitSet_apart coherent.injective asked id).2 enabled]
  | refuses id => exact ⟨List.prefix_rfl, List.prefix_rfl, List.prefix_rfl⟩
  | dispatches other looper free enabled last =>
      refine ⟨List.prefix_rfl, List.prefix_rfl, ?_⟩
      dsimp only
      rw [last]
      exact List.prefix_append _ _
  | enters number link looper free enabled last entered =>
      have sends : ∀ table, Sends Plain table .read := fun _ => trivial
      obtain ⟨sent, handed⟩ := coherent.link_grows sends entered id
      refine ⟨sent, handed, ?_⟩
      dsimp only
      rw [last]
      exact List.prefix_append _ _

/-- A channel that waits keeps its place or gets its turn. -/
theorem Queued.step {bypassing : List (Source Id Other)}
    (queued : Queued origin id state bypassing) (first : Coherent handle tables origin)
    (coherent : Coherent handle tables state) (after : Coherent handle tables next)
    (attends : Attends id action) (transition : Transition handle state action next) :
    (∃ bypassing, Queued origin id next bypassing) ∨ Attended origin id next := by
  cases transition with
  | transfers number moved link looper turn enabled polled =>
      have quiet : looper.dispatched = state.looper.dispatched ++ [] := by
        rw [List.append_nil]
        exact dispatched_stays (poll_quiet number link) polled
      refine Or.inl ⟨bypassing ++ [], ?_⟩
      by_cases same : id = number
      · subst same
        obtain ⟨longer, rests⟩ := queue_stays queued.resting (coherent.inside turn enabled)
          (coherent.healthy id) enabled
        have waiting : link.queue ≠ [] := fun empty =>
          queued.waiting (List.prefix_nil.mp (empty ▸ longer))
        have ready : readable link = true := by
          have healthy := after.healthy id
          dsimp only at healthy
          rw [Function.update_self] at healthy
          exact healthy.ready waiting
        have leaves : LooperFairness.Leaves handle (.channel id : Source Id Other)
            (poll handle id link) := by
          have opened := (readable_iff.mp ready).1
          rw [poll, if_neg opened, if_pos ready]
          simp [LooperFairness.Leaves]
        refine queued.keeps coherent polled leaves quiet List.not_mem_nil ?_ ?_
        · rw [Function.update_self]
          exact waiting
        · rw [Function.update_self]
          exact rests
      · have leaves : LooperFairness.Leaves handle (.channel id : Source Id Other)
            (poll handle number link) := by
          obtain ⟨_, noDrain, noClose, _⟩ := poll_apart coherent.injective same link
          exact ⟨noDrain, noClose, poll_keeps number link _⟩
        exact queued.bypassed coherent polled leaves quiet List.not_mem_nil
          (Function.update_of_ne same ..)
  | changes _ moved looper asked enabled =>
      obtain ⟨apart, quiet⟩ := ofWaitSet_apart coherent.injective asked id
      have stays : moved ≠ .removeSource (.channel id) := by
        intro same
        subst same
        cases action <;> cases asked
        exact attends.1 rfl
      have last : looper.dispatched = state.looper.dispatched ++ [] := by
        rw [List.append_nil]
        exact dispatched_stays quiet enabled
      exact Or.inl ⟨_, queued.bypassed coherent enabled ⟨apart.2.1, apart.2.2.1, stays⟩ last
        List.not_mem_nil rfl⟩
  | refuses number => exact Or.inl ⟨bypassing, queued⟩
  | dispatches other looper free enabled last =>
      exact Or.inl ⟨_, queued.bypassed coherent enabled (by simp [LooperFairness.Leaves]) last
        (by simp) rfl⟩
  | enters number link looper free enabled last entered =>
      by_cases same : id = number
      · subst same
        obtain ⟨_, reads⟩ := read_cases entered
        refine Or.inr ⟨rfl, Or.inl ⟨[], ?_⟩, bypassing, queued.few first, Or.inr ?_⟩
        · dsimp only
          rw [Function.update_self, reads]
        · dsimp only
          rw [last, queued.dispatched, List.append_assoc]
      · exact Or.inl ⟨_, queued.bypassed coherent enabled (by simp [LooperFairness.Leaves]) last
          (by simpa using same) (Function.update_of_ne same ..)⟩

/-- The reader of the channel goes on, or returns and has given everything. -/
theorem Attended.step (attended : Attended origin id state)
    (coherent : Coherent handle tables state) (after : Coherent handle tables next)
    (wanting : (origin.links id).sent <+: (next.links id).sent)
    (attends : Attends id action) (transition : Transition handle state action next) :
    Attended origin id next ∨ (origin.links id).sent <+: given (next.links id) := by
  obtain ⟨running, inside, few⟩ := attended
  cases transition with
  | transfers number moved link looper turn enabled polled =>
      have quiet := dispatched_stays (poll_quiet number link) polled
      by_cases same : id = number
      · subst same
        have healthy := after.healthy id
        dsimp only at healthy wanting
        rw [Function.update_self] at healthy wanting
        have patient : ∀ errno, moved = .recvmsgFails errno → errno = .EINTR :=
          fun errno fails => attends.2 errno (by rw [fails])
        rcases reader_keeps (coherent.healthy id) healthy wanting inside patient enabled with
          ⟨stays, still⟩ | ⟨_, handed⟩
        · refine Or.inl ⟨?_, ?_, ?_⟩
          · dsimp only
            rw [stays, if_neg Bool.false_ne_true]
            exact running
          · dsimp only
            rw [Function.update_self]
            exact still
          · dsimp only
            rw [quiet]
            exact few
        · refine Or.inr ?_
          dsimp only
          rw [Function.update_self]
          exact handed
      · have stays : leaves moved = false := by
          rcases turn with side | other
          · exact sender_stays side
          · rw [running] at other
            exact absurd (Option.some.inj other) same
        refine Or.inl ⟨?_, ?_, ?_⟩
        · dsimp only
          rw [stays, if_neg Bool.false_ne_true]
          exact running
        · dsimp only
          rw [Function.update_of_ne same]
          exact inside
        · dsimp only
          rw [quiet]
          exact few
  | changes _ moved looper asked enabled =>
      refine Or.inl ⟨running, inside, ?_⟩
      dsimp only
      rw [dispatched_stays (ofWaitSet_apart coherent.injective asked id).2 enabled]
      exact few
  | refuses number => exact Or.inl ⟨running, inside, few⟩
  | dispatches other looper free enabled last =>
      rw [running] at free
      contradiction
  | enters number link looper free enabled last entered =>
      rw [running] at free
      contradiction

theorem Prompt.step (prompt : Prompt origin id state) (first : Coherent handle tables origin)
    (coherent : Coherent handle tables state) (modest : Modest action) (attends : Attends id action)
    (transition : Transition handle state action next) : Prompt origin id next := by
  obtain ⟨sent, handed, dispatched⟩ := coherent.grows modest transition id
  have after := coherent.step modest transition
  have wanting := prompt.sent.trans sent
  refine ⟨wanting, prompt.grown.trans dispatched, ?_⟩
  rcases prompt.phase with ⟨bypassing, queued⟩ | attended | given
  · rcases queued.step first coherent after attends transition with still | turn
    · exact Or.inl still
    · exact Or.inr (Or.inl turn)
  · exact Or.inr (attended.step coherent after wanting attends transition)
  · exact Or.inr (Or.inr (given.trans handed))

end Steps

/-! ### Whole runs -/

section Runs

variable {handle : Source Id Other → Int} {links : Id → Delivery.State}
  {earlier : List (Action Id Other)} {origin : State Id Other}

/-- A looper outside its readers does not block while a channel in its wait set has packets. -/
theorem Coherent.wakes {tables : Id → DescriptorTable} (coherent : Coherent handle tables origin)
    {id : Id} (scheduled : .channel id ∈ origin.looper.waitSet.sources)
    (free : origin.reading = none) (waiting : (origin.links id).queue ≠ []) :
    ∃ next, ChannelLooper.step handle origin .wait = some next := by
  have lit := coherent.lit waiting
  have turn : ∃ served, Rotation.serve
      (fun source => origin.looper.waitSet.kernel.level (handle source))
      origin.looper.waitSet.kernel.ready = some served :=
    Rotation.serve_exists (coherent.listed.complete _ scheduled lit) lit
  obtain ⟨⟨source, left⟩, serves⟩ := turn
  simp only [ChannelLooper.step, State.wait, free, LooperFairness.State.wait, serves,
    Option.map_some, Option.bind_some]
  cases source with
  | other other => exact ⟨_, rfl⟩
  | channel number =>
      simp only [Delivery.step, coherent.idle free number, Option.map_some]
      exact ⟨_, rfl⟩

end Runs

end CoreLib.ChannelLooper
