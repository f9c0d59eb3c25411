/-
Servers that come and go on one file system.

The file system maps files to the sockets bound to them, and begins with the stale
entries of dead servers.  The constructor clears whatever its name leads to, and the
destructor unlinks by name, whoever the entry belongs to by then.  Both take a name up
to its first NUL, and an empty one leads to no file.
-/

import CoreLib.Foundation.Custody
import CoreLib.Foundation.NameSpace
import CoreLib.Foundation.Runs
import CoreLib.Server
import CoreLib.SocketAddress

set_option autoImplicit false

namespace CoreLib

open Foundation

namespace Server

inductive Endpoint where
  | stale (number : Nat)
  | bound (serial : Nat)
deriving DecidableEq, Repr

abbrev Names := List UInt8 → Option Endpoint

abbrev EndpointName := { name : List UInt8 // name.length ≤ 96 }

def fileOf (name : List UInt8) : Option (List UInt8) :=
  match SocketAddress.build SocketAddress.linux name with
  | .passed address length => SocketAddress.fileName address length
  | .aborted => none
  | .overflown => none

/-- The calls of a constructor for a file: bind fails only on an existing one. -/
def endpoints (path : List UInt8) (serial : Nat) : Environment Names :=
  { present := fun names => (names path).isSome
    bind := fun names =>
      if (claim names path (.bound serial)).isSome then ⟨0, .other 0⟩ else .failure EADDRINUSE
    bound := fun names => (claim names path (.bound serial)).getD names
    unlinked := fun names => (release names path).getD names
    listen := fun _ => ⟨0, .other 0⟩
    returns := by
      intro names
      split
      · exact Or.inl rfl
      · exact Or.inr rfl
    inUse := by
      intro names
      cases held : names path with
      | none => simp [claim_of_free held]
      | some endpoint => simp [claim_of_taken held, SysResult.failure]
    removes := by
      intro names present
      obtain ⟨endpoint, held⟩ := Option.isSome_iff_exists.mp present
      simp [release_of_taken held] }

/-- bind with an address that has no path chooses an abstract one, which the address of no
client has. -/
def autobound : Environment Names :=
  { present := fun _ => false
    bind := fun _ => ⟨0, .other 0⟩
    bound := id
    unlinked := id
    listen := fun _ => ⟨0, .other 0⟩
    returns := fun _ => Or.inl rfl
    inUse := by simp
    removes := by simp }

def environment (file : Option (List UInt8)) (serial : Nat) : Environment Names :=
  match file with
  | some path => endpoints path serial
  | none => autobound

/-- The constructor on this file system.  Its loop needs two turns here, one to clear the
name and one to bind it. -/
def constructIn (names : Names) (serial : Nat) (name : List UInt8) (socketHandle : Int) :
    Option (Constructed Names) :=
  construct (environment (fileOf name) serial) 2 name socketHandle names

/-- `Server::~Server`, without a result when its CL_CHECK of unlink fails. -/
def destruct (names : Names) (server : Server) : Option Names :=
  if server.socketHandle = -1 then some names
  else
    match SocketAddress.pathOf server.name with
    | none => none
    | some path => release names path

/-! ### One constructor and one destructor -/

theorem fileOf_name (name : EndpointName) : fileOf name = SocketAddress.pathOf name.val := by
  rw [fileOf, SocketAddress.build_short SocketAddress.linux name.property]
  exact SocketAddress.fileName_ofName SocketAddress.linux name.val

theorem endpoints_bind {path : List UInt8} {serial : Nat} {names : Names}
    (free : names path = none) : ((endpoints path serial).bind names).rc = 0 := by
  simp [endpoints, claim_of_free free]

theorem endpoints_cleared (path : List UInt8) (serial : Nat) (names : Names) :
    (endpoints path serial).cleared names = Function.update names path none := by
  cases held : names path with
  | none =>
      have same : Function.update names path none = names := by
        rw [← held, Function.update_eq_self]
      simp [Environment.cleared, endpoints, held, same]
  | some endpoint => simp [Environment.cleared, endpoints, held, release_of_taken held]

theorem endpoints_bound (path : List UInt8) (serial : Nat) (names : Names) :
    (endpoints path serial).bound (Function.update names path none) =
      Function.update names path (some (.bound serial)) := by
  have free : Function.update names path none path = none := Function.update_self ..
  simp [endpoints, claim_of_free free]

def bindName (names : Names) (file : Option (List UInt8)) (serial : Nat) : Names :=
  match file with
  | some path => Function.update names path (some (.bound serial))
  | none => names

/-- The constructor takes over the file of its name, if the name has one. -/
theorem constructIn_finishes (names : Names) (serial : Nat) (name : EndpointName)
    (socketHandle : Nat) :
    constructIn names serial name socketHandle = some (.finished
      { name := name
        socketHandle := socketHandle
        listening := true } (bindName names (SocketAddress.pathOf name.val) serial)) := by
  have opened : (socketHandle : Int) ≠ -1 := by omega
  rw [constructIn, fileOf_name]
  cases SocketAddress.pathOf name.val with
  | none =>
      have bound : (autobound.bind (autobound.cleared names)).rc = 0 := rfl
      exact construct_bound name.property opened bound 0
  | some path =>
      have bound : ((endpoints path serial).bind ((endpoints path serial).cleared names)).rc =
          0 := by
        rw [endpoints_cleared]
        exact endpoints_bind (Function.update_self ..)
      rw [environment, construct_bound name.property opened bound 0, endpoints_cleared,
        endpoints_bound]
      rfl

/-- A destructor that passes its CL_CHECK removes the entry of its name. -/
theorem destruct_cases (names : Names) {server : Server} (opened : server.socketHandle ≠ -1) :
    (destruct names server = none ∧
        ∀ path, SocketAddress.pathOf server.name = some path → names path = none) ∨
      ∃ path endpoint, SocketAddress.pathOf server.name = some path ∧
        names path = some endpoint ∧
        destruct names server = some (Function.update names path none) := by
  rw [destruct, if_neg opened]
  cases file : SocketAddress.pathOf server.name with
  | none => exact Or.inl ⟨rfl, nofun⟩
  | some path =>
      cases held : names path with
      | none =>
          left
          refine ⟨release_of_free held, ?_⟩
          intro other same
          cases same
          exact held
      | some endpoint => exact Or.inr ⟨path, endpoint, rfl, held, release_of_taken held⟩

structure Live where
  server : Server
  serial : Nat

structure Host (Id : Type) where
  names : Names
  nextSerial : Nat
  servers : Id → Option Live
  failed : Bool

inductive Action (Id : Type) where
  | construct (id : Id) (name : EndpointName) (socketHandle : Nat)
  | destroy (id : Id)

namespace Host

variable {Id : Type} [DecidableEq Id]

def start (stale : List UInt8 → Option Nat) : Host Id :=
  { names := fun path => (stale path).map Endpoint.stale
    nextSerial := 0
    servers := fun _ => none
    failed := false }

def step (host : Host Id) (action : Action Id) : Option (Host Id) :=
  if host.failed then none
  else
    match action with
    | .construct id name socketHandle =>
        if (host.servers id).isSome then none
        else
          match constructIn host.names host.nextSerial name socketHandle with
          | none => none
          | some .aborted => some { host with failed := true }
          | some (.failed _ _) => some { host with failed := true }
          | some (.finished server names) => some
              { host with
                names := names
                nextSerial := host.nextSerial + 1
                servers := Function.update host.servers id (some ⟨server, host.nextSerial⟩) }
    | .destroy id =>
        match host.servers id with
        | none => none
        | some live =>
            match destruct host.names live.server with
            | none => some { host with failed := true }
            | some names => some
                { host with
                  names := names
                  servers := Function.update host.servers id none }

/-! ### Endpoints of live servers -/

/-- A client that connects to the name of the server gets to its socket. -/
def Reaches (host : Host Id) (live : Live) : Prop :=
  ∃ path, SocketAddress.pathOf live.server.name = some path ∧
    host.names path = some (.bound live.serial)

/-- The step fails no CL_CHECK, and a destructor leaves the other live servers within
reach that were so before. -/
def Harmless (host : Host Id) (action : Action Id) : Prop :=
  ∀ next, host.step action = some next → next.failed = false ∧
    ∀ id, action = .destroy id → ∀ other live, other ≠ id → host.servers other = some live →
      next.servers other = some live ∧ (host.Reaches live → next.Reaches live)

/-- The condition on a step: the name of a destroyed server leads to a file, whose entry is
still its own. -/
def OwnsEntry (host : Host Id) : Action Id → Prop
  | .construct _ _ _ => True
  | .destroy id => ∀ live, host.servers id = some live → host.Reaches live

/-- Every live server listens, and the entry of its file is bound to a live server. -/
structure Invariant (host : Host Id) : Prop where
  open_ : ∀ id live, host.servers id = some live → live.server.socketHandle ≠ -1
  older : ∀ id live, host.servers id = some live → live.serial < host.nextSerial
  apart : ∀ first second one two, host.servers first = some one →
    host.servers second = some two → one.serial = two.serial → first = second
  entries : ∀ id live path endpoint, host.servers id = some live →
    SocketAddress.pathOf live.server.name = some path → host.names path = some endpoint →
    ∃ other owner, host.servers other = some owner ∧
      SocketAddress.pathOf owner.server.name = some path ∧ endpoint = .bound owner.serial

omit [DecidableEq Id] in
theorem invariant_start (stale : List UInt8 → Option Nat) :
    Invariant (start stale : Host Id) :=
  { open_ := nofun
    older := nofun
    apart := nofun
    entries := nofun }

/-! ### Steps -/

variable {host next : Host Id} {id : Id}

theorem construct_cases {name : EndpointName} {socketHandle : Nat}
    (enabled : host.step (.construct id name socketHandle) = some next) :
    host.failed = false ∧ host.servers id = none ∧
      next =
        { host with
          names := bindName host.names (SocketAddress.pathOf name.val) host.nextSerial
          nextSerial := host.nextSerial + 1
          servers := Function.update host.servers id (some
            { server :=
                { name := name
                  socketHandle := socketHandle
                  listening := true }
              serial := host.nextSerial }) } := by
  unfold step at enabled
  split at enabled
  · contradiction
  · rename_i running
    simp only at enabled
    split at enabled
    · contradiction
    · rename_i absent
      rw [constructIn_finishes] at enabled
      cases enabled
      exact ⟨Bool.eq_false_iff.mpr running, Option.not_isSome_iff_eq_none.mp absent, rfl⟩

/-- A destructor fails on a name without an entry, and removes the entry otherwise. -/
theorem destroy_cases (invariant : Invariant host)
    (enabled : host.step (.destroy id) = some next) :
    host.failed = false ∧ ∃ live, host.servers id = some live ∧
      (((∀ path, SocketAddress.pathOf live.server.name = some path → host.names path = none) ∧
          next = { host with failed := true }) ∨
        ∃ path endpoint, SocketAddress.pathOf live.server.name = some path ∧
          host.names path = some endpoint ∧ next =
            { host with
              names := Function.update host.names path none
              servers := Function.update host.servers id none }) := by
  unfold step at enabled
  split at enabled
  · contradiction
  · rename_i running
    refine ⟨Bool.eq_false_iff.mpr running, ?_⟩
    simp only at enabled
    split at enabled
    · contradiction
    · rename_i live listed
      refine ⟨live, listed, ?_⟩
      rcases destruct_cases host.names (invariant.open_ id live listed) with
        ⟨fails, absent⟩ | ⟨path, endpoint, file, held, removes⟩
      · rw [fails] at enabled
        cases enabled
        exact Or.inl ⟨absent, rfl⟩
      · rw [removes] at enabled
        cases enabled
        exact Or.inr ⟨path, endpoint, file, held, rfl⟩

private theorem construct_invariant {name : EndpointName} {socketHandle : Nat}
    (invariant : Invariant host)
    (enabled : host.step (.construct id name socketHandle) = some next) : Invariant next := by
  obtain ⟨_, absent, same⟩ := construct_cases enabled
  subst same
  refine ⟨?_, ?_, ?_, ?_⟩
  · apply forall_update fun other live _ => invariant.open_ other live
    intro live same
    cases same
    simp only
    omega
  · apply forall_update
    · intro other live _ listed
      exact Nat.lt_succ_of_lt (invariant.older other live listed)
    · intro live same
      cases same
      exact Nat.lt_succ_self _
  · apply apart_update (fun _ _ => Eq.symm) invariant.apart
    intro new same other old present serials
    cases same
    have older := invariant.older other old present
    simp only at serials
    omega
  · intro reader live path endpoint listed file entry
    -- the new server owns the entry of its file, and the other entries have their owners
    by_cases taken : SocketAddress.pathOf name.val = some path
    · simp only [bindName, taken, Function.update_self] at entry
      cases entry
      exact ⟨id, _, Function.update_self .., taken, rfl⟩
    · have old : host.names path = some endpoint := by
        cases other : SocketAddress.pathOf name.val with
        | none => simpa only [other, bindName] using entry
        | some new =>
            have different : path ≠ new := by
              intro same
              rw [same] at taken
              exact taken other
            simpa only [other, bindName, Function.update_of_ne different] using entry
      have before : host.servers reader = some live := by
        by_cases same : reader = id
        · simp only [same, Function.update_self] at listed
          cases listed
          exact absurd file taken
        · simpa [same] using listed
      obtain ⟨other, owner, present, owned, bound⟩ :=
        invariant.entries reader live path endpoint before file old
      have different : other ≠ id := by
        rintro rfl
        rw [absent] at present
        contradiction
      refine ⟨other, owner, ?_, owned, bound⟩
      simpa [different] using present

private theorem destroy_invariant (invariant : Invariant host)
    (enabled : host.step (.destroy id) = some next) : Invariant next := by
  obtain ⟨_, live, listed, ⟨_, same⟩ | ⟨path, _, file, _, same⟩⟩ :=
    destroy_cases invariant enabled
  · subst same
    exact ⟨invariant.open_, invariant.older, invariant.apart, invariant.entries⟩
  · subst same
    have unchanged : ∀ other found, Function.update host.servers id none other = some found →
        other ≠ id ∧ host.servers other = some found := by
      apply forall_update
      · intro other found different present
        exact ⟨different, present⟩
      · exact nofun
    refine ⟨?_, ?_, ?_, ?_⟩
    · intro other found present
      exact invariant.open_ other found (unchanged other found present).2
    · intro other found present
      exact invariant.older other found (unchanged other found present).2
    · exact apart_update (fun _ _ => Eq.symm) invariant.apart nofun
    · intro reader found other endpoint present named entry
      have different : other ≠ path := by
        intro same
        simp only [same, Function.update_self] at entry
        contradiction
      simp only [Function.update_of_ne different] at entry
      obtain ⟨holder, owner, owned, names, bound⟩ :=
        invariant.entries reader found other endpoint (unchanged reader found present).2 named
          entry
      have remains : holder ≠ id := by
        rintro rfl
        rw [listed] at owned
        cases owned
        rw [file] at names
        exact different (Option.some.inj names).symm
      refine ⟨holder, owner, ?_, names, bound⟩
      simpa [remains] using owned

theorem invariant_step (action : Action Id) (invariant : Invariant host)
    (enabled : host.step action = some next) : Invariant next := by
  cases action with
  | construct id name socketHandle => exact construct_invariant invariant enabled
  | destroy id => exact destroy_invariant invariant enabled

/-! ### Harmless steps -/

/-- A destructor is harmless exactly when it unlinks its own entry. -/
theorem harmless_iff (action : Action Id) (invariant : Invariant host)
    (enabled : host.step action = some next) :
    host.Harmless action ↔ host.OwnsEntry action := by
  cases action with
  | construct id name socketHandle =>
      obtain ⟨running, _, same⟩ := construct_cases enabled
      refine ⟨fun _ => trivial, fun _ reached performed => ?_⟩
      rw [enabled] at performed
      cases performed
      refine ⟨by rw [same]; exact running, fun _ impossible => ?_⟩
      contradiction
  | destroy id =>
      obtain ⟨running, live, listed, outcome⟩ := destroy_cases invariant enabled
      constructor
      · intro harmless found present
        rw [listed] at present
        cases present
        obtain ⟨passed, others⟩ := harmless next enabled
        rcases outcome with ⟨_, same⟩ | ⟨path, endpoint, file, entry, same⟩
        · rw [same] at passed
          contradiction
        · obtain ⟨other, owner, owned, names, bound⟩ :=
            invariant.entries id live path endpoint listed file entry
          -- had another live server the entry, it would be out of reach now
          by_cases isOwn : other = id
          · rw [isOwn, listed] at owned
            cases owned
            exact ⟨path, file, by rw [entry, bound]⟩
          · have reached : host.Reaches owner := ⟨path, names, by rw [entry, bound]⟩
            obtain ⟨kept, taken, still⟩ := (others id rfl other owner isOwn owned).2 reached
            rw [names] at taken
            cases taken
            simp [same] at still
      · intro own reached performed
        rw [enabled] at performed
        cases performed
        obtain ⟨file, named, bound⟩ := own live listed
        rcases outcome with ⟨gone, _⟩ | ⟨path, endpoint, taken, entry, same⟩
        · rw [gone file named] at bound
          contradiction
        · subst same
          rw [taken] at named
          cases named
          refine ⟨running, ?_⟩
          intro destroyed action other found different present
          cases action
          refine ⟨by simpa [different] using present, ?_⟩
          rintro ⟨its, itsFile, reaches⟩
          have elsewhere : its ≠ file := by
            rintro rfl
            rw [bound] at reaches
            have serials := Endpoint.bound.inj (Option.some.inj reaches)
            exact different (invariant.apart other id found live present listed serials.symm)
          exact ⟨its, itsFile, by simpa [elsewhere] using reaches⟩

/-- Every step of a run is harmless exactly when the name of every server that is destroyed
leads to a file with its own entry. -/
theorem harmless_iff_owns_entry (stale : List UInt8 → Option Nat) (actions : List (Action Id)) :
    Respects step Harmless (start stale : Host Id) actions ↔
      Respects step OwnsEntry (start stale : Host Id) actions :=
  respects_congr (fun _ action _ invariant enabled => invariant_step action invariant enabled)
    (fun _ action _ invariant enabled => harmless_iff action invariant enabled)
    (invariant_start stale)

/-- A second server takes the name of the first over, and then the first one goes. -/
def takeover : List (Action Bool) :=
  [.construct false ⟨[47, 97], by decide⟩ 3, .construct true ⟨[47, 97], by decide⟩ 4,
    .destroy false]

/-- The second server is alive and cannot be reached any more. -/
theorem takeover_unlinks_live_server :
    (run step (start fun _ => none) takeover).map
        (fun host => (host.names [47, 97], (host.servers true).map Live.serial)) =
      some (none, some 1) ∧
      ¬ Respects step Harmless (start fun _ => none) takeover := by
  refine ⟨rfl, ?_⟩
  intro harmless
  obtain ⟨_, harmless⟩ := harmless _ rfl
  obtain ⟨_, harmless⟩ := harmless _ rfl
  obtain ⟨last, _⟩ := harmless _ rfl
  obtain ⟨path, file, kept⟩ :=
    ((last _ rfl).2 false rfl true _ (by decide) rfl).2 ⟨[47, 97], rfl, rfl⟩
  cases file
  exact absurd kept (by simp)

end Host

end Server

end CoreLib
