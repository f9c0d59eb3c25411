/-
What the rendezvous guarantees to clients and servers.

A listening socket refines the first-in first-out ledger: a successful tryConnect is
accepted and an answer of the server is a delivery.  With the invariant this says who is
connected to whom, and that nobody is kept waiting by a server that answers.
-/

import CoreLib.RendezvousInvariant

set_option autoImplicit false

namespace CoreLib.Rendezvous

open Foundation Socket

namespace Network

variable {Id : Type} [DecidableEq Id]

variable {capacity : Nat} {net next : Network Id} {action : Action Id}

/-! ### The order of answers -/

def Stands (net : Network Id) (serial : Nat) (ledger : Ledger Nat) : Prop :=
  ledger.accepted = (net.sockets serial).established ∧
    ledger.transit = (net.sockets serial).queue ∧
    ledger.delivered = (net.sockets serial).answered.map Prod.fst

def Matched (ledger : Ledger Nat) (serial : Nat) (next : Network Id) : Prop :=
  ∃ labels after, run Ledger.step ledger labels = some after ∧ Stands next serial after

omit [DecidableEq Id] in
theorem Stands.stay {serial : Nat} {ledger : Ledger Nat} (stands : Stands net serial ledger)
    (same : (next.sockets serial).established = (net.sockets serial).established ∧
      (next.sockets serial).queue = (net.sockets serial).queue ∧
      (next.sockets serial).answered = (net.sockets serial).answered) :
    Matched ledger serial next := by
  obtain ⟨established, queue, answered⟩ := same
  refine ⟨[], ledger, rfl, ?_⟩
  rw [Stands, established, queue, answered]
  exact stands

omit [DecidableEq Id] in
theorem Pairing.unused (pairing : Pairing net) :
    (net.sockets net.nextSerial).established = [] ∧ (net.sockets net.nextSerial).queue = [] ∧
      (net.sockets net.nextSerial).answered.map Prod.fst = [] := by
  have nobody : (net.sockets net.nextSerial).established = [] := by
    apply List.eq_nil_iff_forall_not_mem.mpr
    intro number member
    obtain ⟨link, found, serial⟩ := (pairing.established net.nextSerial number).mp member
    exact Nat.lt_irrefl _ (serial ▸ pairing.older number link found)
  have conserved := pairing.conserved net.nextSerial
  rw [nobody] at conserved
  obtain ⟨answered, queue⟩ := List.append_eq_nil_iff.mp conserved
  exact ⟨nobody, queue, answered⟩

theorem stands_step {serial : Nat} {ledger : Ledger Nat} (invariant : Invariant capacity net)
    (stands : Stands net serial ledger) (enabled : step capacity net action = some next) :
    Matched ledger serial next := by
  cases step_cases enabled with
  | fails => exact stands.stay ⟨rfl, rfl, rfl⟩
  | stays => exact stands.stay ⟨rfl, rfl, rfl⟩
  | constructs id name handle server named absent =>
      by_cases same : serial = net.nextSerial
      · obtain ⟨established, queue, answered⟩ := invariant.pairing.unused
        obtain ⟨accepted, transit, delivered⟩ := stands
        refine ⟨[], ledger, rfl, ?_⟩
        rw [same] at accepted transit delivered
        rw [Stands, accepted, transit, delivered, established, queue, answered, same]
        simp [listening, setSocket, Listening.unused]
      · apply stands.stay
        simp [listening, setSocket, same]
  | sets => exact stands.stay ⟨rfl, rfl, rfl⟩
  | destroys id live names listed =>
      apply stands.stay
      by_cases same : serial = live.serial
      · simp [shut, setSocket, same]
      · simp [shut, setSocket, same]
  | creates => exact stands.stay ⟨rfl, rfl, rfl⟩
  | connects id refused table channel other listed opened answers =>
      by_cases same : serial = other
      · obtain ⟨accepted, transit, delivered⟩ := stands
        subst same
        refine ⟨[.accept net.nextLink], ledger.accept net.nextLink, rfl, ?_⟩
        simp [Stands, establish, setSocket, Ledger.accept, accepted, transit, delivered]
      · apply stands.stay
        simp [establish, setSocket, setClient, setLink, same]
  | terminates => exact stands.stay ⟨rfl, rfl, rfl⟩
  | accepts id handle table keeps live number rest link listed waiting found =>
      by_cases same : serial = live.serial
      · obtain ⟨accepted, transit, delivered⟩ := stands
        subst same
        rw [waiting] at transit
        obtain ⟨after, delivers, kept, left, log⟩ := Ledger.deliver_eq transit
        refine ⟨[.deliver], after, run_one delivers, ?_⟩
        rw [Stands, kept, left, log, accepted, delivered]
        simp [setSocket, setLink]
      · apply stands.stay
        simp [setSocket, setLink, same]
  | releases => exact stands.stay ⟨rfl, rfl, rfl⟩
  | transfers => exact stands.stay ⟨rfl, rfl, rfl⟩

structure Refines (capacity serial : Nat) (net : Network Id) (ledger : Ledger Nat) : Prop where
  invariant : Invariant capacity net
  stands : Stands net serial ledger

theorem Refines.step {serial : Nat} {ledger : Ledger Nat}
    (refines : Refines capacity serial net ledger)
    (enabled : Network.step capacity net action = some next) :
    ∃ labels after, run Ledger.step ledger labels = some after ∧
      Refines capacity serial next after := by
  obtain ⟨labels, after, performed, stands⟩ :=
    stands_step refines.invariant refines.stands enabled
  exact ⟨labels, after, performed, refines.invariant.step enabled, stands⟩

/-- In every run, a listening socket answers each of its connections at most once and in
the order in which they were made, and never has more than its share waiting. -/
theorem answered_in_order {stale : List UInt8 → Option Nat} {actions : List (Action Id)}
    (performed : run (step capacity) (start stale) actions = some net) (serial : Nat) :
    (∃ labels ledger, run Ledger.step Ledger.empty labels = some ledger ∧
        Stands net serial ledger) ∧
      (net.sockets serial).answered.map Prod.fst <+: (net.sockets serial).established ∧
      (net.sockets serial).established.Nodup ∧
      (net.sockets serial).queue.length ≤ capacity := by
  have invariant := invariant_run performed
  have everywhere : Respects (step capacity) (fun _ _ => True) (start stale) actions :=
    Respects.of_forall fun _ _ _ => trivial
  obtain ⟨labels, ledger, ledgerRun, refines⟩ : ∃ labels ledger,
      run Ledger.step Ledger.empty labels = some ledger ∧ Refines capacity serial net ledger :=
    run_simulates (fun _ _ _ _ refines _ enabled => refines.step enabled)
      ⟨invariant_start capacity stale, rfl, rfl, rfl⟩ everywhere performed
  have stands := refines.stands
  refine ⟨⟨labels, ledger, ledgerRun, stands⟩, ?_, invariant.pairing.once serial,
    invariant.bounded serial⟩
  have ordered := ledger.delivered_prefix
  rw [stands.1, stands.2.2] at ordered
  exact ordered

def meetingPoint : Server.EndpointName := ⟨[47, 109], by decide⟩

def numbered (number : Nat) : FreshHandle := ⟨number + 1, Nat.succ_pos number⟩

def meeting : List (Action Nat) :=
  [.construct 0 meetingPoint (numbered 3), .setCallback 0 true,
    .create 1 meetingPoint (numbered 4), .tryConnect 1 false fun _ => none,
    .create 2 ⟨[47, 109, 0, 98], by decide⟩ (numbered 5), .tryConnect 2 false fun _ => none,
    .accept 0 (numbered 6) (fun _ => none) true]

theorem answered_in_order_meeting :
    ∃ net, run (step 2) (start fun _ => none) meeting = some net ∧
      (net.sockets 0).established = [0, 1] ∧ (net.sockets 0).answered = [(0, true)] ∧
      (net.sockets 0).answered.map Prod.fst <+: (net.sockets 0).established := by
  obtain ⟨net, performed, established, answered⟩ :
      ∃ net, run (step 2) (start fun _ => none) meeting = some net ∧
        (net.sockets 0).established = [0, 1] ∧ (net.sockets 0).answered = [(0, true)] :=
    ⟨_, rfl, rfl, rfl⟩
  exact ⟨net, performed, established, answered, (answered_in_order performed 0).2.1⟩

/-! ### Who is connected to whom -/

/-- In every run, links and connected clients belong to each other one to one, a link leads
to a socket of the file that its client asked for, and it waits exactly while it is queued
at the socket of a live server of this file. -/
theorem rightly_connected {stale : List UInt8 → Option Nat} {actions : List (Action Id)}
    (performed : run (step capacity) (start stale) actions = some net) :
    (∀ id number, net.clients id = some (.connected number) ↔
      ∃ link, net.links number = some link ∧ link.client = id) ∧
    ∀ number link, net.links number = some link → ∃ path,
      Server.fileOf link.state.sender.name = some path ∧
      (net.sockets link.serial).file = some path ∧
      (link.phase = .waiting ↔ number ∈ (net.sockets link.serial).queue ∧
        ∃ id live, net.servers id = some live ∧ live.serial = link.serial ∧
          SocketAddress.pathOf live.server.name = some path) := by
  have invariant := invariant_run performed
  constructor
  · intro id number
    constructor
    · exact invariant.pairing.linked id number
    · intro found
      obtain ⟨link, listed, owned⟩ := found
      rw [← owned]
      exact invariant.pairing.owner number link listed
  · intro number link found
    obtain ⟨path, asked, file⟩ := invariant.named number link found
    refine ⟨path, asked, file, ?_⟩
    rw [invariant.waits number link found]
    constructor
    · intro queued
      obtain ⟨opened, member⟩ := queued
      obtain ⟨id, live, listed, serial⟩ := invariant.endpoints.served link.serial opened
      have bound := (invariant.endpoints.live id live listed).2
      rw [serial, file] at bound
      exact ⟨member, id, live, listed, serial, bound.symm⟩
    · intro queued
      obtain ⟨member, id, live, listed, serial, _⟩ := queued
      have opened := (invariant.endpoints.live id live listed).1
      rw [serial] at opened
      exact ⟨opened, member⟩

theorem rightly_connected_meeting :
    ∃ net, run (step 2) (start fun _ => none) meeting = some net ∧
      (∃ link, net.links 1 = some link ∧ link.client = 2) ∧
      ∀ link, net.links 1 = some link → link.phase = .waiting := by
  obtain ⟨net, performed, connected, link, found, waiting⟩ :
      ∃ net, run (step 2) (start fun _ => none) meeting = some net ∧
        net.clients 2 = some (.connected 1) ∧
        ∃ link, net.links 1 = some link ∧ link.phase = .waiting :=
    ⟨_, rfl, rfl, _, rfl, rfl⟩
  obtain ⟨owners, _⟩ := rightly_connected performed
  refine ⟨net, performed, (owners 2 1).mp connected, ?_⟩
  intro other listed
  rw [found] at listed
  cases listed
  exact waiting

/-- A channel that is not connected yet gets a connection exactly when its socket is open
and its name leads to a live server of this name with room in its queue. -/
theorem tryConnect_iff {stale : List UInt8 → Option Nat} {actions : List (Action Id)}
    (performed : run (step capacity) (start stale) actions = some net) {id : Id}
    {channel : Channel} (listed : net.clients id = some (.unconnected channel))
    (table : DescriptorTable) :
    (∃ after, net.tryConnect capacity id false table = some (true, after)) ↔
      channel.handle ≠ -1 ∧ ∃ path other live, Server.fileOf channel.name = some path ∧
        net.names path = some (.bound live.serial) ∧ net.servers other = some live ∧
        SocketAddress.pathOf live.server.name = some path ∧
        (net.sockets live.serial).queue.length < capacity := by
  have invariant := invariant_run performed
  have idle := (invariant.pairing.idle id channel listed).connected
  constructor
  · intro connected
    obtain ⟨after, connected⟩ := connected
    simp only [tryConnect, listed, idle, Bool.false_eq_true, if_false, or_false] at connected
    split at connected
    · cases connected
    · rename_i opened
      refine ⟨opened, ?_⟩
      split at connected
      · cases connected
      · rename_i serial answers
        obtain ⟨path, file, bound, listens, room⟩ := answering_cases answers
        obtain ⟨other, live, present, same⟩ := invariant.endpoints.served serial listens
        have named := (invariant.endpoints.live other live present).2
        rw [same, (invariant.endpoints.entries path serial bound).2] at named
        subst same
        exact ⟨path, other, live, file, bound, present, named.symm, room⟩
  · intro reachable
    obtain ⟨opened, path, other, live, file, bound, present, _, room⟩ := reachable
    have listens := (invariant.endpoints.live other live present).1
    have answers : net.answering capacity channel.name = some live.serial := by
      simp only [answering, file, bound, listens, room, and_self, if_true]
    refine ⟨net.establish id channel live.serial table, ?_⟩
    simp only [tryConnect, listed, idle, Bool.false_eq_true, if_false, or_false, if_neg opened,
      answers]

/-- The name of the second client ends at its NUL. -/
theorem tryConnect_iff_meeting :
    ∃ net after, run (step 2) (start fun _ => none) (meeting.take 5) = some net ∧
      net.tryConnect 2 2 false (fun _ => none) = some (true, after) := by
  obtain ⟨net, performed, listed, live, present, bound, named, room⟩ :
      ∃ net, run (step 2) (start fun _ => none) (meeting.take 5) = some net ∧
        net.clients 2 = some (.unconnected (Channel.named [47, 109, 0, 98] 6)) ∧
        ∃ live, net.servers 0 = some live ∧
          net.names [47, 109] = some (.bound live.serial) ∧
          SocketAddress.pathOf live.server.name = some [47, 109] ∧
          (net.sockets live.serial).queue.length < 2 :=
    ⟨_, rfl, rfl, _, rfl, rfl, rfl, by decide⟩
  obtain ⟨after, connected⟩ := (tryConnect_iff performed listed fun _ => none).mpr
    ⟨by decide, [47, 109], 0, live, rfl, bound, present, named, room⟩
  exact ⟨net, after, performed, connected⟩

/-! ### Nobody is kept waiting -/

structure Acceptance where
  handle : FreshHandle
  table : DescriptorTable
  keeps : Bool

def Acceptance.toAction (id : Id) (acceptance : Acceptance) : Action Id :=
  .accept id acceptance.handle acceptance.table acceptance.keeps

/-- A server that is told of a waiting connection answers it. -/
theorem accept_enabled (invariant : Invariant capacity net) (running : net.failed = false)
    {id : Id} {live : Listener} (listed : net.servers id = some live) {number : Nat}
    {rest : List Nat} (waiting : (net.sockets live.serial).queue = number :: rest)
    (acceptance : Acceptance) :
    ∃ after, step capacity net (acceptance.toAction id) = some after ∧ after.failed = false ∧
      after.servers id = some live ∧ (after.sockets live.serial).queue = rest ∧
      (after.sockets live.serial).answered =
        (net.sockets live.serial).answered ++ [(number, live.callback)] := by
  have member : number ∈ (net.sockets live.serial).established := by
    rw [← invariant.pairing.conserved, waiting]
    simp
  obtain ⟨link, found, _⟩ := (invariant.pairing.established live.serial number).mp member
  refine ⟨(net.setLink number (answer link live.callback acceptance.handle acceptance.table
    acceptance.keeps)).setSocket live.serial
      { net.sockets live.serial with
        queue := rest
        answered := (net.sockets live.serial).answered ++ [(number, live.callback)] },
    ?_, running, listed, ?_, ?_⟩
  · simp only [step, running, Bool.false_eq_true, if_false, Acceptance.toAction, accept, listed,
      waiting, found, Option.map_some]
  · simp [setSocket, setLink]
  · simp [setSocket, setLink]

theorem accepts_drain {id : Id} {live : Listener} (acceptances : List Acceptance)
    (invariant : Invariant capacity net) (running : net.failed = false)
    (listed : net.servers id = some live)
    (enough : acceptances.length = (net.sockets live.serial).queue.length) :
    ∃ final, run (step capacity) net (acceptances.map (Acceptance.toAction id)) = some final ∧
      Invariant capacity final ∧ (final.sockets live.serial).queue = [] ∧
      (final.sockets live.serial).answered = (net.sockets live.serial).answered ++
        (net.sockets live.serial).queue.map fun number => (number, live.callback) := by
  induction acceptances generalizing net with
  | nil =>
      have empty := List.eq_nil_of_length_eq_zero enough.symm
      refine ⟨net, rfl, invariant, empty, ?_⟩
      rw [empty, List.map_nil, List.append_nil]
  | cons acceptance acceptances ih =>
      cases waiting : (net.sockets live.serial).queue with
      | nil =>
          rw [waiting] at enough
          contradiction
      | cons number rest =>
          obtain ⟨after, enabled, alive, still, left, log⟩ :=
            accept_enabled invariant running listed waiting acceptance
          rw [waiting] at enough
          obtain ⟨final, performed, kept, empty, answered⟩ :=
            ih (invariant.step enabled) alive still (by rw [left]; exact Nat.succ.inj enough)
          refine ⟨final, ?_, kept, empty, ?_⟩
          · rw [List.map_cons, run_cons, enabled]
            exact performed
          · rw [answered, log, left, List.map_cons, List.append_assoc]
            rfl

/-- At any time, a live server needs as many dispatches of its source as connections wait
for it, and all of these go through: each is answered, in order, and none waits then. -/
theorem server_drains {stale : List UInt8 → Option Nat} {actions : List (Action Id)}
    (performed : run (step capacity) (start stale) actions = some net)
    (running : net.failed = false) {id : Id} {live : Listener}
    (listed : net.servers id = some live) {acceptances : List Acceptance}
    (enough : acceptances.length = (net.sockets live.serial).queue.length) :
    ∃ final, run (step capacity) net (acceptances.map (Acceptance.toAction id)) = some final ∧
      (final.sockets live.serial).answered = (net.sockets live.serial).answered ++
        ((net.sockets live.serial).queue.map fun number => (number, live.callback)) ∧
      ∀ number link, final.links number = some link → link.serial = live.serial →
        link.phase ≠ .waiting := by
  obtain ⟨final, drained, invariant, empty, answered⟩ :=
    accepts_drain acceptances (invariant_run performed) running listed enough
  refine ⟨final, drained, answered, ?_⟩
  intro number link found served waiting
  have queued := ((invariant.waits number link found).mp waiting).2
  rw [served, empty] at queued
  contradiction

theorem server_drains_meeting :
    ∃ net final, run (step 2) (start fun _ => none) meeting = some net ∧
      run (step 2) net [.accept 0 (numbered 7) (fun _ => none) true] = some final ∧
      (final.sockets 0).answered = [(0, true), (1, true)] := by
  obtain ⟨net, performed, running, live, listed, serial, callback, queue, answered⟩ :
      ∃ net, run (step 2) (start fun _ => none) meeting = some net ∧ net.failed = false ∧
        ∃ live, net.servers 0 = some live ∧ live.serial = 0 ∧ live.callback = true ∧
          (net.sockets live.serial).queue = [1] ∧
          (net.sockets live.serial).answered = [(0, true)] :=
    ⟨_, rfl, rfl, _, rfl, rfl, rfl, rfl, rfl⟩
  have enough : [({ handle := numbered 7, table := fun _ => none, keeps := true } :
      Acceptance)].length = (net.sockets live.serial).queue.length := by
    rw [queue]
    rfl
  obtain ⟨final, drained, log, _⟩ := server_drains performed running listed enough
  refine ⟨net, final, performed, drained, ?_⟩
  rw [serial] at log queue answered
  rw [log, queue, answered, callback]
  rfl

end Network

end CoreLib.Rendezvous
