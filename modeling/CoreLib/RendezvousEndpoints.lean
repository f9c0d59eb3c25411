/-
The names, servers and listening sockets of a network belong together.

Every step is first brought into a normal form.  A file leads to the open socket of a
live server for this file or nowhere.
-/

import CoreLib.Foundation.Custody
import CoreLib.Rendezvous

set_option autoImplicit false

namespace CoreLib.Rendezvous

open Foundation Socket

namespace Network

variable {Id : Type} [DecidableEq Id]

/-! ### What each step does -/

inductive Transition (capacity : Nat) (net : Network Id) : Action Id → Network Id → Prop where
  | fails (action : Action Id) : Transition capacity net action net.fail
  | stays (action : Action Id) : Transition capacity net action net
  | constructs (id : Id) (name : Server.EndpointName) (handle : FreshHandle) (server : Server)
      (named : server.name = name) (absent : net.servers id = none)
      (opened : server.socketHandle ≠ -1) :
      Transition capacity net (.construct id name handle)
        (net.listening id server
          (Server.bindName net.names (SocketAddress.pathOf name.val) net.nextSerial))
  | sets (id : Id) (callback : Bool) (live : Listener) (listed : net.servers id = some live) :
      Transition capacity net (.setCallback id callback)
        { net with servers := Function.update net.servers id (some
          { live with callback := callback }) }
  | destroys (id : Id) (live : Listener) (names : Server.Names)
      (listed : net.servers id = some live)
      (destructed : Server.destruct net.names live.server = some names) :
      Transition capacity net (.destroy id) (net.shut id live.serial names)
  | creates (id : Id) (name : Server.EndpointName) (handle : FreshHandle)
      (absent : net.clients id = none) :
      Transition capacity net (.create id name handle)
        (net.setClient id (.unconnected (Channel.named name handle.val)))
  | connects (id : Id) (refused : Bool) (table : DescriptorTable) (channel : Channel)
      (serial : Nat) (listed : net.clients id = some (.unconnected channel))
      (opened : channel.handle ≠ -1)
      (answers : net.answering capacity channel.name = some serial) :
      Transition capacity net (.tryConnect id refused table)
        (net.establish id channel serial table)
  | terminates (id : Id) (channel : Channel)
      (listed : net.clients id = some (.unconnected channel)) :
      Transition capacity net (.terminate id)
        (net.setClient id (.unconnected channel.terminated))
  | accepts (id : Id) (handle : FreshHandle) (table : DescriptorTable) (keeps : Bool)
      (live : Listener) (number : Nat) (rest : List Nat) (link : Link Id)
      (listed : net.servers id = some live)
      (waiting : (net.sockets live.serial).queue = number :: rest)
      (found : net.links number = some link) :
      Transition capacity net (.accept id handle table keeps)
        ((net.setLink number (answer link live.callback handle table keeps)).setSocket
          live.serial
          { net.sockets live.serial with
            queue := rest
            answered := (net.sockets live.serial).answered ++ [(number, live.callback)] })
  | releases (number : Nat) (link : Link Id) (found : net.links number = some link)
      (accepted : link.phase = .accepted) :
      Transition capacity net (.release number) (net.setLink number (link.inPhase .closed))
  | transfers (number : Nat) (action : Delivery.Action) (link : Link Id)
      (state : Delivery.State) (found : net.links number = some link)
      (permitted : link.phase.permits action = true)
      (enabled : Delivery.step link.state action = some state) :
      Transition capacity net (.transfer number action)
        (net.setLink number { link with state := state })

variable {capacity : Nat} {net next : Network Id} {action : Action Id}

theorem construct_cases {id : Id} {name : Server.EndpointName} {handle : FreshHandle}
    (enabled : net.construct id name handle = some next) :
    Transition capacity net (.construct id name handle) next := by
  unfold construct at enabled
  split at enabled
  · contradiction
  · rename_i absent
    have opened : (handle.val : Int) ≠ -1 := by omega
    rw [Server.constructIn_finishes] at enabled
    cases enabled
    exact .constructs id name handle _ rfl (Option.not_isSome_iff_eq_none.mp absent) opened

theorem destroy_cases {id : Id} (enabled : net.destroy id = some next) :
    Transition capacity net (.destroy id) next := by
  unfold destroy at enabled
  split at enabled
  · contradiction
  · rename_i live listed
    split at enabled
    · cases enabled
      exact .fails _
    · rename_i names destructed
      cases enabled
      exact .destroys id live names listed destructed

theorem tryConnect_cases {id : Id} {refused connected : Bool} {table : DescriptorTable}
    (enabled : net.tryConnect capacity id refused table = some (connected, next)) :
    Transition capacity net (.tryConnect id refused table) next := by
  unfold tryConnect at enabled
  split at enabled
  · contradiction
  · obtain ⟨link, _, same⟩ := Option.map_eq_some_iff.mp enabled
    cases same
    exact .stays _
  · rename_i channel listed
    split at enabled
    · cases enabled
      exact .stays _
    · split at enabled
      · cases enabled
        exact .stays _
      · rename_i usable
        split at enabled
        · cases enabled
          exact .stays _
        · rename_i serial answers
          cases enabled
          exact .connects id refused table channel serial listed (fun gone => usable (Or.inl gone))
            answers

theorem accept_cases {id : Id} {handle : FreshHandle} {table : DescriptorTable} {keeps : Bool}
    (enabled : net.accept id handle table keeps = some next) :
    Transition capacity net (.accept id handle table keeps) next := by
  unfold accept at enabled
  split at enabled
  · contradiction
  · rename_i live listed
    split at enabled
    · contradiction
    · rename_i number rest waiting
      obtain ⟨link, found, same⟩ := Option.map_eq_some_iff.mp enabled
      cases same
      exact .accepts id handle table keeps live number rest link listed waiting found

theorem transfer_cases {number : Nat} {moved : Delivery.Action}
    (enabled : net.transfer number moved = some next) :
    Transition capacity net (.transfer number moved) next := by
  unfold transfer at enabled
  split at enabled
  · contradiction
  · rename_i link found
    split at enabled
    · rename_i permitted
      obtain ⟨state, stepped, same⟩ := Option.map_eq_some_iff.mp enabled
      cases same
      exact .transfers number moved link state found permitted stepped
    · contradiction

theorem step_cases (enabled : step capacity net action = some next) :
    Transition capacity net action next := by
  unfold step at enabled
  split at enabled
  · contradiction
  · cases action with
    | construct id name handle => exact construct_cases enabled
    | setCallback id callback =>
        obtain ⟨live, listed, same⟩ := Option.map_eq_some_iff.mp enabled
        cases same
        exact .sets id callback live listed
    | destroy id => exact destroy_cases enabled
    | create id name handle =>
        simp only [create] at enabled
        split at enabled
        · contradiction
        · rename_i absent
          cases enabled
          exact .creates id name handle (Option.not_isSome_iff_eq_none.mp absent)
    | tryConnect id refused table =>
        obtain ⟨⟨connected, after⟩, performed, same⟩ := Option.map_eq_some_iff.mp enabled
        cases same
        exact tryConnect_cases performed
    | terminate id =>
        simp only [terminate] at enabled
        split at enabled
        · rename_i channel listed
          cases enabled
          exact .terminates id channel listed
        · contradiction
    | accept id handle table keeps => exact accept_cases enabled
    | acceptFails id =>
        obtain ⟨live, _, same⟩ := Option.map_eq_some_iff.mp enabled
        cases same
        exact .fails _
    | release number =>
        simp only [releaseLink] at enabled
        split at enabled
        · contradiction
        · rename_i link found
          split at enabled
          · rename_i accepted
            cases enabled
            exact .releases number link found accepted
          · contradiction
    | transfer number moved => exact transfer_cases enabled

/-! ### Names and listening sockets -/

/-- Every live server has an open socket of its own, and whatever is bound to a file is the
open socket of a live server for this file. -/
structure Endpoints (net : Network Id) : Prop where
  older : ∀ serial, (net.sockets serial).opened = true → serial < net.nextSerial
  live : ∀ id live, net.servers id = some live → (net.sockets live.serial).opened = true ∧
    (net.sockets live.serial).file = SocketAddress.pathOf live.server.name
  handled : ∀ id live, net.servers id = some live → live.server.socketHandle ≠ -1
  apart : ∀ first second one two, net.servers first = some one →
    net.servers second = some two → one.serial = two.serial → first = second
  served : ∀ serial, (net.sockets serial).opened = true →
    ∃ id live, net.servers id = some live ∧ live.serial = serial
  entries : ∀ file serial, net.names file = some (.bound serial) →
    (net.sockets serial).opened = true ∧ (net.sockets serial).file = some file

omit [DecidableEq Id] in
theorem endpoints_start (stale : List UInt8 → Option Nat) :
    Endpoints (start stale : Network Id) := by
  refine ⟨nofun, nofun, nofun, nofun, nofun, ?_⟩
  intro file serial bound
  obtain ⟨number, _, impossible⟩ := Option.map_eq_some_iff.mp bound
  contradiction

omit [DecidableEq Id] in
theorem Endpoints.frame (endpoints : Endpoints net) (names : next.names = net.names)
    (nextSerial : next.nextSerial = net.nextSerial) (servers : next.servers = net.servers)
    (sockets : ∀ serial, (next.sockets serial).opened = (net.sockets serial).opened ∧
      (next.sockets serial).file = (net.sockets serial).file) : Endpoints next := by
  obtain ⟨older, live, handled, apart, served, entries⟩ := endpoints
  constructor
  · intro serial opened
    rw [(sockets serial).1] at opened
    rw [nextSerial]
    exact older serial opened
  · intro id found listed
    rw [servers] at listed
    rw [(sockets found.serial).1, (sockets found.serial).2]
    exact live id found listed
  · intro id found listed
    rw [servers] at listed
    exact handled id found listed
  · intro first second one two here there
    rw [servers] at here there
    exact apart first second one two here there
  · intro serial opened
    rw [(sockets serial).1] at opened
    rw [servers]
    exact served serial opened
  · intro file serial bound
    rw [names] at bound
    rw [(sockets serial).1, (sockets serial).2]
    exact entries file serial bound

omit [DecidableEq Id] in
theorem setSocket_frame {serial : Nat} {socket : Listening}
    (opened : socket.opened = (net.sockets serial).opened)
    (file : socket.file = (net.sockets serial).file) (other : Nat) :
    ((net.setSocket serial socket).sockets other).opened = (net.sockets other).opened ∧
      ((net.setSocket serial socket).sockets other).file = (net.sockets other).file := by
  by_cases same : other = serial
  · subst same
    simp [setSocket, opened, file]
  · simp [setSocket, same]

theorem Endpoints.constructs (endpoints : Endpoints net) {id : Id} {name : Server.EndpointName}
    {server : Server} {names : Server.Names} (named : server.name = name)
    (absent : net.servers id = none) (handled : server.socketHandle ≠ -1)
    (same : names =
      Server.bindName net.names (SocketAddress.pathOf name.val) net.nextSerial) :
    Endpoints (net.listening id server names) := by
  have unopened : ∀ serial, (net.sockets serial).opened = true → serial ≠ net.nextSerial :=
    fun serial opened => Nat.ne_of_lt (endpoints.older serial opened)
  constructor
  · intro serial opened
    by_cases same : serial = net.nextSerial
    · rw [same]
      exact Nat.lt_succ_self _
    · simp only [listening, setSocket, Function.update_of_ne same] at opened
      exact Nat.lt_succ_of_lt (endpoints.older serial opened)
  · apply forall_update
    · intro other found _ listed
      have before := endpoints.live other found listed
      simpa only [listening, setSocket, Function.update_of_ne (unopened _ before.1)] using before
    · intro found same
      cases same
      simp only [listening, setSocket, Function.update_self, named, Server.fileOf_name, and_self]
  · apply forall_update fun other found _ listed => endpoints.handled other found listed
    intro found same
    cases same
    exact handled
  · apply apart_update (fun _ _ => Eq.symm) endpoints.apart
    intro new same other old listed serials
    cases same
    exact unopened old.serial (endpoints.live other old listed).1 serials
  · intro serial opened
    by_cases same : serial = net.nextSerial
    · exact ⟨id, _, Function.update_self .., same.symm⟩
    · simp only [listening, setSocket, Function.update_of_ne same] at opened
      obtain ⟨other, found, listed, serials⟩ := endpoints.served serial opened
      have different : other ≠ id := by
        intro impossible
        rw [impossible, absent] at listed
        contradiction
      exact ⟨other, found, (Function.update_of_ne different ..).trans listed, serials⟩
  · intro file serial bound
    have old : net.names file = some (.bound serial) →
        ((net.listening id server names).sockets serial).opened = true ∧
        ((net.listening id server names).sockets serial).file = some file := by
      intro earlier
      have before := endpoints.entries file serial earlier
      simpa only [listening, setSocket, Function.update_of_ne (unopened _ before.1)] using before
    simp only [listening, same] at bound
    cases path : SocketAddress.pathOf name.val with
    | none =>
        rw [path] at bound
        exact old bound
    | some taken =>
        rw [path] at bound
        by_cases here : file = taken
        · rw [here, Server.bindName, Function.update_self] at bound
          cases bound
          simp only [listening, setSocket, Function.update_self, named, Server.fileOf_name, path,
            here, and_self]
        · rw [Server.bindName, Function.update_of_ne here] at bound
          exact old bound

theorem Endpoints.destroys (endpoints : Endpoints net) {id : Id} {live : Listener}
    {names : Server.Names} (listed : net.servers id = some live)
    (destructed : Server.destruct net.names live.server = some names) :
    Endpoints (net.shut id live.serial names) := by
  obtain ⟨opened, file⟩ := endpoints.live id live listed
  obtain ⟨path, named, unlinks⟩ : ∃ path, SocketAddress.pathOf live.server.name = some path ∧
      names = Function.update net.names path none := by
    rcases Server.destruct_cases net.names (endpoints.handled id live listed) with
      ⟨fails, _⟩ | ⟨path, _, named, _, removes⟩
    · rw [fails] at destructed
      contradiction
    · rw [removes] at destructed
      exact ⟨path, named, (Option.some.inj destructed).symm⟩
  have remaining : ∀ other found, Function.update net.servers id none other = some found →
      other ≠ id ∧ net.servers other = some found := by
    apply forall_update
    · intro other found different present
      exact ⟨different, present⟩
    · nofun
  have distinct : ∀ other found, Function.update net.servers id none other = some found →
      found.serial ≠ live.serial := by
    intro other found present same
    obtain ⟨different, before⟩ := remaining other found present
    exact different (endpoints.apart other id found live before listed same)
  have kept : ∀ serial, ((net.shut id live.serial names).sockets serial).opened = true →
      serial ≠ live.serial ∧ (net.sockets serial).opened = true := by
    intro serial still
    by_cases same : serial = live.serial
    · simp [shut, setSocket, same] at still
    · simp only [shut, setSocket, Function.update_of_ne same] at still
      exact ⟨same, still⟩
  constructor
  · intro serial still
    exact endpoints.older serial (kept serial still).2
  · intro other found present
    have before := endpoints.live other found (remaining other found present).2
    simpa only [shut, setSocket, Function.update_of_ne (distinct other found present)] using before
  · intro other found present
    exact endpoints.handled other found (remaining other found present).2
  · exact apart_update (fun _ _ => Eq.symm) endpoints.apart nofun
  · intro serial still
    obtain ⟨different, before⟩ := kept serial still
    obtain ⟨other, found, present, serials⟩ := endpoints.served serial before
    have remains : other ≠ id := by
      intro same
      rw [same, listed] at present
      cases present
      exact different serials.symm
    exact ⟨other, found, (Function.update_of_ne remains ..).trans present, serials⟩
  · intro entry serial bound
    simp only [shut, unlinks] at bound
    have unlinked : entry ≠ path := by
      intro same
      rw [same, Function.update_self] at bound
      contradiction
    rw [Function.update_of_ne unlinked] at bound
    have before := endpoints.entries entry serial bound
    have different : serial ≠ live.serial := by
      intro same
      rw [same, file, named] at before
      exact unlinked (Option.some.inj before.2).symm
    simpa only [shut, setSocket, Function.update_of_ne different] using before

theorem Endpoints.sets (endpoints : Endpoints net) {id : Id} {live : Listener} (callback : Bool)
    (listed : net.servers id = some live) :
    Endpoints { net with servers := Function.update net.servers id (some
      { live with callback := callback }) } := by
  have before : ∀ other found, Function.update net.servers id (some
      { live with callback := callback }) other = some found →
      ∃ old, net.servers other = some old ∧ old.serial = found.serial ∧
        old.server = found.server := by
    apply forall_update
    · intro other found _ present
      exact ⟨found, present, rfl, rfl⟩
    · intro found same
      cases same
      exact ⟨live, listed, rfl, rfl⟩
  refine ⟨endpoints.older, ?_, ?_, ?_, ?_, endpoints.entries⟩
  · intro other found present
    obtain ⟨old, earlier, serials, servers⟩ := before other found present
    rw [← serials, ← servers]
    exact endpoints.live other old earlier
  · intro other found present
    obtain ⟨old, earlier, _, servers⟩ := before other found present
    rw [← servers]
    exact endpoints.handled other old earlier
  · intro first second one two here there same
    obtain ⟨oldOne, earlier, serialOne, _⟩ := before first one here
    obtain ⟨oldTwo, also, serialTwo, _⟩ := before second two there
    exact endpoints.apart first second oldOne oldTwo earlier also
      (serialOne.trans (same.trans serialTwo.symm))
  · intro serial opened
    obtain ⟨other, found, present, same⟩ := endpoints.served serial opened
    by_cases changed : other = id
    · rw [changed, listed] at present
      cases present
      exact ⟨id, _, Function.update_self .., same⟩
    · exact ⟨other, found, (Function.update_of_ne changed ..).trans present, same⟩

theorem Transition.endpoints (transition : Transition capacity net action next)
    (endpoints : Endpoints net) : Endpoints next := by
  have plain : ∀ serial, (net.sockets serial).opened = (net.sockets serial).opened ∧
      (net.sockets serial).file = (net.sockets serial).file := fun _ => ⟨rfl, rfl⟩
  cases transition with
  | fails => exact endpoints.frame rfl rfl rfl plain
  | stays => exact endpoints
  | constructs id name handle server named absent opened =>
      exact endpoints.constructs named absent opened rfl
  | sets id callback live listed => exact endpoints.sets callback listed
  | destroys id live names listed destructed => exact endpoints.destroys listed destructed
  | creates id name handle absent => exact endpoints.frame rfl rfl rfl plain
  | connects id refused table channel serial listed opened answers =>
      exact endpoints.frame rfl rfl rfl (setSocket_frame rfl rfl)
  | terminates id channel listed => exact endpoints.frame rfl rfl rfl plain
  | accepts id handle table keeps live number rest link listed waiting found =>
      exact endpoints.frame rfl rfl rfl (setSocket_frame rfl rfl)
  | releases number link found accepted => exact endpoints.frame rfl rfl rfl plain
  | transfers number action link state found permitted enabled =>
      exact endpoints.frame rfl rfl rfl plain

end Network

end CoreLib.Rendezvous
