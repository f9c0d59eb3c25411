/-
The clients, links and queues of a network belong together.

Every link has one client and one listening socket.  Whatever a step does to a link, it
leaves these two and the name of its channel alone (`Follows`), so the ownership is a
matter of the few steps that make or answer links.
-/

import CoreLib.DeliveryLedger
import CoreLib.RendezvousEndpoints

set_option autoImplicit false

namespace CoreLib.Rendezvous

open Foundation Socket

/-- A link changes its client's channel by terminating it only. -/
theorem step_sender {state next : Delivery.State} {action : Delivery.Action}
    (enabled : Delivery.step state action = some next) :
    next.sender = state.sender ∨ next.sender = state.sender.terminated := by
  cases action with
  | send message =>
      obtain ⟨_, _, same⟩ := Delivery.send_cases enabled
      subst next
      exact Or.inl rfl
  | sendmsgFails errno =>
      obtain ⟨_, _, same⟩ := Delivery.sendmsgFails_cases enabled
      subst next
      exact Or.inl rfl
  | sendmsgAccepts control =>
      obtain ⟨_, _, _, _, _, _, same⟩ := Delivery.sendmsgAccepts_cases enabled
      subst next
      exact Or.inl rfl
  | poll interrupted =>
      obtain ⟨_, _, same | same⟩ := Delivery.poll_cases enabled
      · subst next
        exact Or.inl rfl
      · subst next
        exact Or.inl rfl
  | sendReturns =>
      obtain ⟨_, status, _, same⟩ := Delivery.sendReturns_cases enabled
      subst next
      dsimp only
      split
      · exact Or.inr rfl
      · exact Or.inl rfl
  | terminateSender =>
      cases enabled
      exact Or.inr rfl
  | read =>
      obtain ⟨_, same⟩ := Delivery.read_cases enabled
      subst next
      exact Or.inl rfl
  | recvmsgFails errno =>
      simp only [Delivery.step, Delivery.State.recvmsgFails] at enabled
      split at enabled
      · split at enabled
        · contradiction
        · cases enabled
          exact Or.inl rfl
      · contradiction
  | recvmsg descriptors =>
      simp only [Delivery.step, Delivery.State.recvmsg] at enabled
      split at enabled
      · split at enabled
        · contradiction
        · split at enabled
          · cases enabled
            exact Or.inl rfl
          · split at enabled
            · cases enabled
              exact Or.inl rfl
            · contradiction
      · contradiction
  | dispatch =>
      obtain ⟨_, _, _, _, same⟩ := Delivery.dispatch_cases enabled
      subst next
      exact Or.inl rfl
  | readReturns =>
      obtain ⟨_, _, same⟩ := Delivery.readReturns_cases enabled
      subst next
      exact Or.inl rfl

theorem sender_name {state next : Delivery.State} {action : Delivery.Action}
    (enabled : Delivery.step state action = some next) :
    next.sender.name = state.sender.name := by
  rcases step_sender enabled with same | ended
  · rw [same]
  · rw [ended]
    rfl

namespace Network

variable {Id : Type} [DecidableEq Id]

variable {capacity : Nat} {net next : Network Id} {action : Action Id}

/-! ### Clients, links and queues -/

/-- A channel that has no connection, with its socket open or closed. -/
structure Idle (channel : Channel) : Prop where
  connected : channel.connected = false
  handle : 0 < channel.handle ∨ channel.handle = -1

/-- Every link belongs to one client and to one listening socket, which has answered it or
has it in its queue. -/
structure Pairing (net : Network Id) : Prop where
  fresh : ∀ number, net.nextLink ≤ number → net.links number = none
  older : ∀ number link, net.links number = some link → link.serial < net.nextSerial
  owner : ∀ number link, net.links number = some link →
    net.clients link.client = some (.connected number)
  linked : ∀ id number, net.clients id = some (.connected number) →
    ∃ link, net.links number = some link ∧ link.client = id
  idle : ∀ id channel, net.clients id = some (.unconnected channel) → Idle channel
  established : ∀ serial number, number ∈ (net.sockets serial).established ↔
    ∃ link, net.links number = some link ∧ link.serial = serial
  once : ∀ serial, (net.sockets serial).established.Nodup
  conserved : ∀ serial, (net.sockets serial).answered.map Prod.fst ++
    (net.sockets serial).queue = (net.sockets serial).established

def Waits (net : Network Id) : Prop :=
  ∀ number link, net.links number = some link →
    (link.phase = .waiting ↔ (net.sockets link.serial).opened = true ∧
      number ∈ (net.sockets link.serial).queue)

omit [DecidableEq Id] in
theorem pairing_start (stale : List UInt8 → Option Nat) : Pairing (start stale : Network Id) := by
  constructor
  · intro number _
    rfl
  · intro number link impossible
    contradiction
  · intro number link impossible
    contradiction
  · intro id number impossible
    contradiction
  · intro id channel impossible
    contradiction
  · intro serial number
    simp [start, Listening.unused]
  · intro serial
    exact List.nodup_nil
  · intro serial
    rfl

omit [DecidableEq Id] in
theorem Pairing.lt (pairing : Pairing net) {number : Nat} {link : Link Id}
    (found : net.links number = some link) : number < net.nextLink := by
  apply Nat.lt_of_not_le
  intro unused
  rw [pairing.fresh number unused] at found
  contradiction

omit [DecidableEq Id] in
/-- The head of a queue is a link of this socket and waits only once. -/
theorem Pairing.head (pairing : Pairing net) {serial number : Nat} {rest : List Nat}
    {link : Link Id} (waits : (net.sockets serial).queue = number :: rest)
    (found : net.links number = some link) : link.serial = serial ∧ number ∉ rest := by
  have once := pairing.once serial
  rw [← pairing.conserved serial, waits] at once
  have member : number ∈ (net.sockets serial).established := by
    rw [← pairing.conserved serial, waits]
    simp
  obtain ⟨same, listed, serials⟩ := (pairing.established serial number).mp member
  rw [found] at listed
  cases listed
  have tail := (List.nodup_append.mp once).2.1
  exact ⟨serials, (List.nodup_cons.mp tail).1⟩

theorem Pairing.setClient (pairing : Pairing net) {id : Id} {channel : Channel}
    (unconnected : Idle channel)
    (apart : ∀ number, net.clients id ≠ some (.connected number)) :
    Pairing (net.setClient id (.unconnected channel)) := by
  obtain ⟨fresh, older, owner, linked, idle, established, once, conserved⟩ := pairing
  refine ⟨fresh, older, ?_, ?_, ?_, established, once, conserved⟩
  · intro number link found
    have owned := owner number link found
    have different : link.client ≠ id := by
      intro same
      rw [same] at owned
      exact apart number owned
    exact (Function.update_of_ne different ..).trans owned
  · intro other number connected
    by_cases same : other = id
    · simp [Network.setClient, same] at connected
    · simp only [Network.setClient, Function.update_of_ne same] at connected
      exact linked other number connected
  · intro other found listed
    by_cases same : other = id
    · simp only [Network.setClient, same, Function.update_self] at listed
      cases listed
      exact unconnected
    · simp only [Network.setClient, Function.update_of_ne same] at listed
      exact idle other found listed

def identity (link : Link Id) : Id × Nat × List UInt8 :=
  (link.client, link.serial, link.state.sender.name)

/-- The links are still there and have kept their identity. -/
def Follows (links changed : Nat → Option (Link Id)) : Prop :=
  ∀ number, (changed number).map identity = (links number).map identity

omit [DecidableEq Id] in
theorem identity_eq {one two : Link Id} (same : identity one = identity two) :
    one.client = two.client ∧ one.serial = two.serial ∧
      one.state.sender.name = two.state.sender.name := by
  simpa [identity] using same

omit [DecidableEq Id] in
theorem Follows.back {links changed : Nat → Option (Link Id)} (follows : Follows links changed)
    {number : Nat} {now : Link Id} (listed : changed number = some now) :
    ∃ old, links number = some old ∧ identity old = identity now := by
  have same := follows number
  rw [listed] at same
  exact Option.map_eq_some_iff.mp same.symm

omit [DecidableEq Id] in
theorem Follows.on {links changed : Nat → Option (Link Id)} (follows : Follows links changed)
    {number : Nat} {old : Link Id} (listed : links number = some old) :
    ∃ now, changed number = some now ∧ identity now = identity old := by
  have same := follows number
  rw [listed] at same
  exact Option.map_eq_some_iff.mp same

omit [DecidableEq Id] in
theorem follows_update {links : Nat → Option (Link Id)} {number : Nat} {link changed : Link Id}
    (found : links number = some link) (same : identity changed = identity link) :
    Follows links (Function.update links number (some changed)) := by
  intro other
  by_cases here : other = number
  · rw [here, Function.update_self, found, Option.map_some, Option.map_some, same]
  · rw [Function.update_of_ne here]

omit [DecidableEq Id] in
theorem follows_dropWaiting (serial : Nat) (links : Nat → Option (Link Id)) :
    Follows links (dropWaiting serial links) := by
  intro number
  cases listed : links number with
  | none => simp [dropWaiting, listed]
  | some link =>
      simp only [dropWaiting, listed, Option.map_some]
      split
      · rfl
      · rfl

omit [DecidableEq Id] in
theorem Pairing.frame (pairing : Pairing net) (nextLink : next.nextLink = net.nextLink)
    (nextSerial : next.nextSerial = net.nextSerial) (clients : next.clients = net.clients)
    (follows : Follows net.links next.links)
    (sockets : ∀ serial, (next.sockets serial).established = (net.sockets serial).established ∧
      (next.sockets serial).answered.map Prod.fst ++ (next.sockets serial).queue =
        (net.sockets serial).answered.map Prod.fst ++ (net.sockets serial).queue) :
    Pairing next := by
  constructor
  · intro number unused
    rw [nextLink] at unused
    have same := follows number
    rw [pairing.fresh number unused] at same
    exact Option.map_eq_none_iff.mp same
  · intro number now listed
    obtain ⟨old, earlier, same⟩ := follows.back listed
    rw [nextSerial, ← (identity_eq same).2.1]
    exact pairing.older number old earlier
  · intro number now listed
    obtain ⟨old, earlier, same⟩ := follows.back listed
    rw [clients, ← (identity_eq same).1]
    exact pairing.owner number old earlier
  · intro id number connected
    rw [clients] at connected
    obtain ⟨old, listed, owned⟩ := pairing.linked id number connected
    obtain ⟨now, later, same⟩ := follows.on listed
    exact ⟨now, later, (identity_eq same).1.trans owned⟩
  · rw [clients]
    exact pairing.idle
  · intro serial number
    rw [(sockets serial).1, pairing.established serial number]
    constructor
    · intro earlier
      obtain ⟨old, listed, serials⟩ := earlier
      obtain ⟨now, later, same⟩ := follows.on listed
      exact ⟨now, later, (identity_eq same).2.1.trans serials⟩
    · intro later
      obtain ⟨now, listed, serials⟩ := later
      obtain ⟨old, earlier, same⟩ := follows.back listed
      exact ⟨old, earlier, (identity_eq same).2.1.trans serials⟩
  · intro serial
    rw [(sockets serial).1]
    exact pairing.once serial
  · intro serial
    rw [(sockets serial).1, (sockets serial).2]
    exact pairing.conserved serial

theorem Pairing.constructs (pairing : Pairing net) (id : Id) (server : Server)
    (names : Server.Names) : Pairing (net.listening id server names) := by
  have nobody : ∀ link number, net.links number = some link → link.serial ≠ net.nextSerial :=
    fun link number found => Nat.ne_of_lt (pairing.older number link found)
  constructor
  · exact pairing.fresh
  · intro number link found
    exact Nat.lt_succ_of_lt (pairing.older number link found)
  · exact pairing.owner
  · exact pairing.linked
  · exact pairing.idle
  · intro serial number
    by_cases same : serial = net.nextSerial
    · simp only [listening, setSocket, same, Function.update_self, Listening.unused,
        List.not_mem_nil, false_iff]
      intro impossible
      obtain ⟨link, found, serials⟩ := impossible
      exact nobody link number found serials
    · simp only [listening, setSocket, Function.update_of_ne same]
      exact pairing.established serial number
  · intro serial
    by_cases same : serial = net.nextSerial
    · simp [listening, setSocket, same, Listening.unused]
    · simp only [listening, setSocket, Function.update_of_ne same]
      exact pairing.once serial
  · intro serial
    by_cases same : serial = net.nextSerial
    · simp [listening, setSocket, same, Listening.unused]
    · simp only [listening, setSocket, Function.update_of_ne same]
      exact pairing.conserved serial

theorem Pairing.connects (pairing : Pairing net) {id : Id} {channel : Channel} {serial : Nat}
    (table : DescriptorTable) (listed : net.clients id = some (.unconnected channel))
    (older : serial < net.nextSerial) :
    Pairing (net.establish id channel serial table) := by
  have others : ∀ number link, net.links number = some link → number ≠ net.nextLink :=
    fun number link found => Nat.ne_of_lt (pairing.lt found)
  have unknown : ∀ socket, net.nextLink ∉ (net.sockets socket).established := by
    intro socket member
    obtain ⟨link, found, _⟩ := (pairing.established socket net.nextLink).mp member
    exact others net.nextLink link found rfl
  have sockets : ∀ other, other ≠ serial →
      (net.establish id channel serial table).sockets other = net.sockets other :=
    fun other different => Function.update_of_ne different ..
  have socket : (net.establish id channel serial table).sockets serial =
      { net.sockets serial with
        queue := (net.sockets serial).queue ++ [net.nextLink]
        established := (net.sockets serial).established ++ [net.nextLink] } :=
    Function.update_self ..
  constructor
  · intro number unused
    have different : number ≠ net.nextLink := Nat.ne_of_gt unused
    exact (Function.update_of_ne different ..).trans
      (pairing.fresh number (Nat.le_of_succ_le unused))
  · apply forall_update
    · intro number link _ found
      exact pairing.older number link found
    · intro link same
      cases same
      exact older
  · apply forall_update
    · intro number link _ found
      have owned := pairing.owner number link found
      have different : link.client ≠ id := by
        intro same
        rw [same, listed] at owned
        cases owned
      exact (Function.update_of_ne different ..).trans owned
    · intro link same
      cases same
      exact Function.update_self ..
  · intro other number connected
    by_cases same : other = id
    · subst same
      simp only [establish, setSocket, Network.setClient, Function.update_self,
        Option.some.injEq, Client.connected.injEq] at connected
      subst connected
      exact ⟨_, Function.update_self .., rfl⟩
    · simp only [establish, setSocket, Network.setClient, Function.update_of_ne same,
        Network.setLink] at connected
      obtain ⟨link, found, owned⟩ := pairing.linked other number connected
      exact ⟨link, (Function.update_of_ne (others number link found) ..).trans found, owned⟩
  · intro other found present
    by_cases same : other = id
    · subst same
      simp [establish, setSocket, Network.setClient] at present
    · simp only [establish, setSocket, Network.setClient, Function.update_of_ne same,
        Network.setLink] at present
      exact pairing.idle other found present
  · intro other number
    have link : (net.establish id channel serial table).links number =
        Function.update net.links net.nextLink (some (.fresh id serial channel table)) number :=
      rfl
    rw [link]
    by_cases newest : number = net.nextLink
    · by_cases same : other = serial
      · rw [same, socket, newest]
        simp [Link.fresh]
      · rw [sockets other same, newest]
        simp [unknown, Link.fresh, Ne.symm same]
    · rw [Function.update_of_ne newest]
      by_cases same : other = serial
      · rw [same, socket]
        simp [newest, pairing.established]
      · rw [sockets other same]
        exact pairing.established other number
  · intro other
    by_cases same : other = serial
    · rw [same, socket]
      simpa using (pairing.once serial).concat (unknown serial)
    · rw [sockets other same]
      exact pairing.once other
  · intro other
    by_cases same : other = serial
    · rw [same, socket]
      simp only [← List.append_assoc, pairing.conserved serial]
    · rw [sockets other same]
      exact pairing.conserved other

omit [DecidableEq Id] in
theorem answer_same (link : Link Id) (callback : Bool) (handle : FreshHandle)
    (table : DescriptorTable) (keeps : Bool) :
    identity (answer link callback handle table keeps) = identity link ∧
      (answer link callback handle table keeps).phase ≠ .waiting := by
  unfold answer
  split
  · exact ⟨rfl, nofun⟩
  · exact ⟨rfl, nofun⟩

omit [DecidableEq Id] in
theorem answering_cases {name : List UInt8} {serial : Nat}
    (answers : net.answering capacity name = some serial) :
    ∃ file, Server.fileOf name = some file ∧ net.names file = some (.bound serial) ∧
      (net.sockets serial).opened = true ∧ (net.sockets serial).queue.length < capacity := by
  unfold answering at answers
  split at answers
  · contradiction
  · rename_i file named
    split at answers
    · rename_i found bound
      split at answers
      · rename_i room
        cases answers
        exact ⟨file, named, bound, room⟩
      · contradiction
    · contradiction

theorem Transition.pairing (transition : Transition capacity net action next)
    (endpoints : Endpoints net) (pairing : Pairing net) : Pairing next := by
  have plain : ∀ serial, (net.sockets serial).established = (net.sockets serial).established ∧
      (net.sockets serial).answered.map Prod.fst ++ (net.sockets serial).queue =
        (net.sockets serial).answered.map Prod.fst ++ (net.sockets serial).queue :=
    fun _ => ⟨rfl, rfl⟩
  cases transition with
  | fails => exact pairing.frame rfl rfl rfl (fun _ => rfl) plain
  | stays => exact pairing
  | constructs id name handle server named absent => exact pairing.constructs id server _
  | sets id callback live listed => exact pairing.frame rfl rfl rfl (fun _ => rfl) plain
  | destroys id live names listed =>
      refine pairing.frame rfl rfl rfl (follows_dropWaiting live.serial net.links) ?_
      intro serial
      by_cases same : serial = live.serial
      · simp [shut, setSocket, same]
      · simp [shut, setSocket, same]
  | creates id name handle absent =>
      have positive : (0 : Int) < handle.val := Int.natCast_pos.mpr handle.property
      refine pairing.setClient ⟨rfl, Or.inl positive⟩ ?_
      intro number
      rw [absent]
      intro impossible
      cases impossible
  | connects id refused table channel serial listed opened answers =>
      obtain ⟨_, _, _, listens, _⟩ := answering_cases answers
      exact pairing.connects table listed (endpoints.older serial listens)
  | terminates id channel listed =>
      refine pairing.setClient ⟨rfl, Or.inr rfl⟩ ?_
      intro number
      rw [listed]
      intro impossible
      cases impossible
  | accepts id handle table keeps live number rest link listed waiting found =>
      have same := (answer_same link live.callback handle table keeps).1
      refine pairing.frame rfl rfl rfl (follows_update found same) ?_
      intro serial
      by_cases same : serial = live.serial
      · rw [same]
        simp [setSocket, setLink, waiting]
      · simp [setSocket, setLink, same]
  | releases number link found accepted =>
      have same : identity (link.inPhase .closed) = identity link := rfl
      exact pairing.frame rfl rfl rfl (follows_update found same) plain
  | transfers number action link state found permitted enabled =>
      have same : identity { link with state := state } = identity link := by
        simp only [identity, sender_name enabled]
      exact pairing.frame rfl rfl rfl (follows_update found same) plain

omit [DecidableEq Id] in
theorem Waits.setLink (waits : Waits net) {number : Nat} {link changed : Link Id}
    (found : net.links number = some link) (serial : changed.serial = link.serial)
    (phase : changed.phase = .waiting ↔ link.phase = .waiting) :
    Waits (net.setLink number changed) := by
  apply forall_update
  · intro other now _ listed
    exact waits other now listed
  · intro now same
    cases same
    rw [serial, phase]
    exact waits number link found

theorem Transition.waits (transition : Transition capacity net action next)
    (pairing : Pairing net) (waits : Waits net) : Waits next := by
  cases transition with
  | fails => exact waits
  | stays => exact waits
  | constructs id name handle server named absent =>
      intro number link found
      have older : link.serial ≠ net.nextSerial := Nat.ne_of_lt (pairing.older number link found)
      simp only [listening, setSocket, Function.update_of_ne older]
      exact waits number link found
  | sets id callback live listed => exact waits
  | destroys id live names listed =>
      intro number now listed
      obtain ⟨old, earlier, same⟩ := Option.map_eq_some_iff.mp listed
      have before := waits number old earlier
      split at same
      · rename_i dropped
        subst same
        simp [Link.inPhase, shut, setSocket, dropped.1]
      · rename_i kept
        subst same
        by_cases shut_ : old.serial = live.serial
        · have awake : old.phase ≠ .waiting := fun waiting => kept ⟨shut_, waiting⟩
          simp [shut, setSocket, shut_, awake]
        · simp only [shut, setSocket, Function.update_of_ne shut_]
          exact before
  | creates id name handle absent => exact waits
  | connects id refused table channel serial listed opened answers =>
      obtain ⟨_, _, _, listens, _⟩ := answering_cases answers
      apply forall_update
      · intro number link different found
        have before := waits number link found
        by_cases same : link.serial = serial
        · rw [same] at before ⊢
          simp [establish, setSocket, before, different]
        · simp only [establish, setSocket, Function.update_of_ne same]
          exact before
      · intro link same
        cases same
        simp [Link.fresh, establish, setSocket, listens]
  | terminates id channel listed => exact waits
  | accepts id handle table keeps live number rest link listed waiting found =>
      obtain ⟨same, awake⟩ := answer_same link live.callback handle table keeps
      have serial := (identity_eq same).2.1
      obtain ⟨served, once⟩ := pairing.head waiting found
      apply forall_update
      · intro other now different present
        have before := waits other now present
        by_cases same : now.serial = live.serial
        · rw [same, waiting] at before
          rw [same, before]
          simp [setSocket, setLink, different]
        · simp only [setSocket, Function.update_of_ne same]
          exact before
      · intro now same
        cases same
        rw [serial, served]
        simp [awake, setSocket, once]
  | releases number link found accepted =>
      have phases : (link.inPhase .closed).phase = .waiting ↔ link.phase = .waiting := by
        simp [Link.inPhase, accepted]
      exact waits.setLink found rfl phases
  | transfers number action link state found permitted enabled =>
      exact waits.setLink found rfl Iff.rfl

theorem Transition.bounded (transition : Transition capacity net action next)
    (bounded : ∀ serial, (net.sockets serial).queue.length ≤ capacity) (serial : Nat) :
    (next.sockets serial).queue.length ≤ capacity := by
  have written : ∀ (other : Nat) (socket : Listening), socket.queue.length ≤ capacity →
      (Function.update net.sockets other socket serial).queue.length ≤ capacity := by
    intro other socket small
    by_cases same : serial = other
    · rw [same, Function.update_self]
      exact small
    · rw [Function.update_of_ne same]
      exact bounded serial
  cases transition with
  | fails => exact bounded serial
  | stays => exact bounded serial
  | constructs => exact written _ _ (Nat.zero_le _)
  | sets => exact bounded serial
  | destroys id live => exact written _ _ (bounded live.serial)
  | creates => exact bounded serial
  | connects id refused table channel other listed opened answers =>
      obtain ⟨_, _, _, _, room⟩ := answering_cases answers
      apply written
      simpa using room
  | terminates => exact bounded serial
  | accepts id handle table keeps live number rest link listed waiting found =>
      apply written
      have before := bounded live.serial
      rw [waiting, List.length_cons] at before
      exact Nat.le_of_succ_le before
  | releases => exact bounded serial
  | transfers => exact bounded serial

/-- A link leads to the socket of the file that its channel was created for. -/
def Named (net : Network Id) : Prop :=
  ∀ number link, net.links number = some link →
    ∃ path, Server.fileOf link.state.sender.name = some path ∧
      (net.sockets link.serial).file = some path

theorem file_update {sockets : Nat → Listening} {serial : Nat} {socket : Listening}
    (same : socket.file = (sockets serial).file) (other : Nat) :
    (Function.update sockets serial socket other).file = (sockets other).file := by
  by_cases here : other = serial
  · rw [here, Function.update_self, same]
  · rw [Function.update_of_ne here]

omit [DecidableEq Id] in
theorem Named.frame (named : Named net) (follows : Follows net.links next.links)
    (files : ∀ number link, net.links number = some link →
      (next.sockets link.serial).file = (net.sockets link.serial).file) : Named next := by
  intro number now listed
  obtain ⟨old, earlier, same⟩ := follows.back listed
  obtain ⟨_, serials, names⟩ := identity_eq same
  rw [← names, ← serials, files number old earlier]
  exact named number old earlier

theorem Transition.named (transition : Transition capacity net action next)
    (endpoints : Endpoints net) (pairing : Pairing net) (named : Named net) : Named next := by
  have plain : ∀ number link, net.links number = some link →
      (net.sockets link.serial).file = (net.sockets link.serial).file := fun _ _ _ => rfl
  cases transition with
  | fails => exact named
  | stays => exact named
  | constructs id name handle server same absent =>
      refine named.frame (fun _ => rfl) ?_
      intro number link found
      have older : link.serial ≠ net.nextSerial := Nat.ne_of_lt (pairing.older number link found)
      simp only [listening, setSocket, Function.update_of_ne older]
  | sets id callback live listed => exact named
  | destroys id live names listed =>
      refine named.frame (follows_dropWaiting live.serial net.links) ?_
      intro number link found
      apply file_update
      rfl
  | creates id name handle absent => exact named
  | connects id refused table channel serial listed opened answers =>
      obtain ⟨path, file, bound, _, _⟩ := answering_cases answers
      have bind := (endpoints.entries path serial bound).2
      have files : ∀ other, ((net.establish id channel serial table).sockets other).file =
          (net.sockets other).file := by
        intro other
        apply file_update
        rfl
      apply forall_update
      · intro number link _ found
        rw [files]
        exact named number link found
      · intro link same
        cases same
        rw [files]
        exact ⟨path, file, bind⟩
  | terminates id channel listed => exact named
  | accepts id handle table keeps live number rest link listed waiting found =>
      have same := (answer_same link live.callback handle table keeps).1
      refine named.frame (follows_update found same) ?_
      intro other link found
      apply file_update
      rfl
  | releases number link found accepted =>
      have same : identity (link.inPhase .closed) = identity link := rfl
      exact named.frame (follows_update found same) plain
  | transfers number action link state found permitted enabled =>
      have same : identity { link with state := state } = identity link := by
        simp only [identity, sender_name enabled]
      exact named.frame (follows_update found same) plain

structure Invariant (capacity : Nat) (net : Network Id) : Prop where
  endpoints : Endpoints net
  pairing : Pairing net
  waits : Waits net
  named : Named net
  bounded : ∀ serial, (net.sockets serial).queue.length ≤ capacity

omit [DecidableEq Id] in
theorem invariant_start (capacity : Nat) (stale : List UInt8 → Option Nat) :
    Invariant capacity (start stale : Network Id) := by
  refine ⟨endpoints_start stale, pairing_start stale, ?_, ?_, fun _ => Nat.zero_le capacity⟩
  · intro number link impossible
    contradiction
  · intro number link impossible
    contradiction

theorem Invariant.step (invariant : Invariant capacity net)
    (enabled : step capacity net action = some next) : Invariant capacity next := by
  have transition := step_cases enabled
  exact ⟨transition.endpoints invariant.endpoints,
    transition.pairing invariant.endpoints invariant.pairing,
    transition.waits invariant.pairing invariant.waits,
    transition.named invariant.endpoints invariant.pairing invariant.named,
    transition.bounded invariant.bounded⟩

theorem invariant_run {stale : List UInt8 → Option Nat} {actions : List (Action Id)}
    (performed : run (Network.step capacity) (start stale) actions = some net) :
    Invariant capacity net :=
  run_preserves (fun _ _ _ invariant enabled => invariant.step enabled)
    (invariant_start capacity stale) performed

end Network

end CoreLib.Rendezvous
