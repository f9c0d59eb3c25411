/-
Which descriptors the Socket objects of a process own.

The constructor serves four ways of getting a socket, and takes the handle 0 for the
request to make a new one.  A process is its descriptor table, its Socket objects and a
record of the descriptors that were given to them or created for them.  System calls
succeed; a failed assertion or CL_CHECK has no result and aborts the process.
-/

import CoreLib.Foundation.Custody
import CoreLib.Foundation.HandleTable
import CoreLib.Foundation.Runs

set_option autoImplicit false

namespace CoreLib

open Foundation

namespace SocketOwnership

/-! ### The system calls -/

/-- What a descriptor refers to; the serial tells apart the results of different calls. -/
inductive File where
  | inherited (number : Int)
  | unconnected (serial : Nat)
  | pairEnd (serial : Nat) (second : Bool)
  | connection (serial : Nat)
deriving DecidableEq, Repr

structure Kernel where
  table : HandleTable File
  serial : Nat

def socket (kernel : Kernel) : Int × Kernel :=
  (kernel.table.next,
    { table := kernel.table.insert (.unconnected kernel.serial)
      serial := kernel.serial + 1 })

def socketpair (kernel : Kernel) : (Int × Int) × Kernel :=
  let first := kernel.table.insert (.pairEnd kernel.serial false)
  ((kernel.table.next, first.next),
    { table := first.insert (.pairEnd kernel.serial true)
      serial := kernel.serial + 1 })

def accept (kernel : Kernel) : Int × Kernel :=
  (kernel.table.next,
    { table := kernel.table.insert (.connection kernel.serial)
      serial := kernel.serial + 1 })

/-! ### The class -/

def construct (kernel : Kernel) (handle : Int) : Option (Int × Kernel) :=
  let (handle, kernel) := if handle = 0 then socket kernel else (handle, kernel)
  if 0 < handle then some (handle, kernel) else none

/-- The member `_handle`, and the descriptor that the object was made for. -/
structure Owner where
  handle : Int
  given : Int × File

structure Process (Id : Type) where
  kernel : Kernel
  sockets : Id → Option Owner
  used : List Id
  pairs : List (Id × Id × Nat)
  acquired : List (Int × File)
  closed : List (Int × File)
  aborted : Bool

/-- `accept` stands for an accept of a Server whose connection is handed to a Channel,
`adopt` for `Socket::Create` on a descriptor that no Socket owns. -/
inductive Action (Id : Type) where
  | create (id : Id)
  | adopt (id : Id) (number : Int)
  | createPair (first second : Id)
  | accept (id : Id)
  | close (id : Id)
  | destroy (id : Id)

namespace Process

variable {Id : Type} [DecidableEq Id]

def start (opened : List Nat) : Process Id :=
  { kernel :=
      { table := .ofNumbers opened .inherited
        serial := 0 }
    sockets := fun _ => none
    used := []
    pairs := []
    acquired := []
    closed := []
    aborted := false }

def abort (process : Process Id) : Process Id := { process with aborted := true }

def own (process : Process Id) (id : Id) (kernel : Kernel) (handle : Int) (given : Int × File) :
    Process Id :=
  { process with
    kernel := kernel
    sockets := Function.update process.sockets id (some
      { handle := handle
        given := given })
    used := id :: process.used
    acquired := process.acquired ++ [given] }

def construct (process : Process Id) (id : Id) (kernel : Kernel) (handle : Int)
    (given : Int × File) : Process Id :=
  match SocketOwnership.construct kernel handle with
  | none => process.abort
  | some (handle, kernel) => process.own id kernel handle given

def unowned (process : Process Id) (number : Int) : Bool :=
  process.used.all fun id => (process.sockets id).all fun owner => owner.handle ≠ number

/-- `Socket::close`, after which the object has the given entry. -/
def close (process : Process Id) (id : Id) (owner : Owner) (left : Option Owner) : Process Id :=
  if owner.handle ≠ -1 then
    match process.kernel.table.find owner.handle with
    | none => process.abort
    | some file =>
        { process with
          kernel := { process.kernel with table := process.kernel.table.remove owner.handle }
          sockets := Function.update process.sockets id left
          closed := process.closed ++ [(owner.handle, file)] }
  else
    { process with sockets := Function.update process.sockets id left }

def step (process : Process Id) (action : Action Id) : Option (Process Id) :=
  if process.aborted then none
  else
    match action with
    | .create id =>
        if id ∈ process.used then none
        else some (process.construct id process.kernel 0
          (process.kernel.table.next, .unconnected process.kernel.serial))
    | .adopt id number =>
        if id ∈ process.used ∨ process.unowned number = false then none
        else
          match process.kernel.table.find number with
          | none => none
          | some file => some (process.construct id process.kernel number (number, file))
    | .createPair first second =>
        if first ∈ process.used ∨ second ∈ process.used ∨ first = second then none
        else
          let ((one, two), kernel) := socketpair process.kernel
          let serial := process.kernel.serial
          let half := process.construct first kernel one (one, .pairEnd serial false)
          if half.aborted then some half
          else
            let whole := half.construct second half.kernel two (two, .pairEnd serial true)
            some { whole with pairs := (first, second, serial) :: whole.pairs }
    | .accept id =>
        if id ∈ process.used then none
        else
          let (connection, kernel) := SocketOwnership.accept process.kernel
          some (process.construct id kernel connection
            (connection, .connection process.kernel.serial))
    | .close id =>
        match process.sockets id with
        | none => none
        | some owner => some (process.close id owner (some { owner with handle := -1 }))
    | .destroy id =>
        match process.sockets id with
        | none => none
        | some owner => some (process.close id owner none)

/-! ### Ownership -/

end Process

def holding (owner : Owner) : Option (Int × File) :=
  if owner.handle = -1 then none else some (owner.handle, owner.given.2)

namespace Process

variable {Id : Type}

/-- The handle of the object, if it is there and not closed, is a descriptor of the file. -/
def RefersTo (process : Process Id) (id : Id) (file : File) : Prop :=
  ∀ owner, process.sockets id = some owner → owner.handle ≠ -1 →
    process.kernel.table.find owner.handle = some file

/-- Nothing has failed, each handle is the descriptor that the object was made for, the
objects of a pair have its two ends, and each descriptor given to an object is open and
owned by it alone or was closed once; all other descriptors are as they were. -/
structure Owned (opened : List Nat) (process : Process Id) : Prop where
  running : process.aborted = false
  exactHandle : ∀ id owner, process.sockets id = some owner →
    owner.handle = owner.given.1 ∨ owner.handle = -1
  refers : ∀ id owner, process.sockets id = some owner → process.RefersTo id owner.given.2
  pairs : ∀ first second serial, (first, second, serial) ∈ process.pairs →
    process.RefersTo first (.pairEnd serial false) ∧ process.RefersTo second (.pairEnd serial true)
  alone : ∀ first second one two, process.sockets first = some one →
    process.sockets second = some two → one.handle ≠ -1 → one.handle = two.handle →
    first = second
  descriptors : Accounted (start opened : Process Id).kernel.table.find
    process.kernel.table.find process.acquired process.closed (Held process.sockets holding)
  drained : (∀ id, process.sockets id = none) →
    ∀ entry, entry ∈ process.closed ↔ entry ∈ process.acquired

/-- The condition on a step: 0 is neither handed out nor handed in. -/
def SparesZero (process : Process Id) : Action Id → Prop
  | .create _ => process.kernel.table.find 0 ≠ none
  | .adopt _ number => number ≠ 0
  | .createPair _ _ => process.kernel.table.find 0 ≠ none
  | .accept _ => process.kernel.table.find 0 ≠ none
  | .close _ => True
  | .destroy _ => True

/-! ### The invariant -/

/-- The file is older than the serial, or the one that the number was inherited with. -/
def Dated (serial : Nat) (number : Int) : File → Prop
  | .inherited original => number = original
  | .unconnected date => date < serial
  | .pairEnd date _ => date < serial
  | .connection date => date < serial

theorem Dated.later {serial later : Nat} {number : Int} {file : File}
    (dated : Dated serial number file) (after : serial ≤ later) : Dated later number file := by
  cases file with
  | inherited original => exact dated
  | unconnected date => exact Nat.lt_of_lt_of_le dated after
  | pairEnd date second => exact Nat.lt_of_lt_of_le dated after
  | connection date => exact Nat.lt_of_lt_of_le dated after

theorem holding_open {owner : Owner} (isOpen : owner.handle ≠ -1) :
    holding owner = some (owner.handle, owner.given.2) := if_neg isOpen

theorem holding_closed {owner : Owner} (closed : owner.handle = -1) : holding owner = none :=
  if_pos closed

theorem open_of_holding {owner : Owner} {number : Int} {file : File}
    (holds : holding owner = some (number, file)) :
    owner.handle ≠ -1 ∧ owner.handle = number ∧ owner.given.2 = file := by
  unfold holding at holds
  split at holds
  · contradiction
  · rename_i isOpen
    cases holds
    exact ⟨isOpen, rfl, rfl⟩

structure Invariant (opened : List Nat) (process : Process Id) : Prop where
  running : process.aborted = false
  exactHandle : ∀ id owner, process.sockets id = some owner →
    owner.handle = owner.given.1 ∨ owner.handle = -1
  apart : ∀ first second one two, process.sockets first = some one →
    process.sockets second = some two → one.handle ≠ -1 → two.handle ≠ -1 →
    one.given.2 = two.given.2 → first = second
  descriptors : Accounted (start opened : Process Id).kernel.table.find
    process.kernel.table.find process.acquired process.closed (Held process.sockets holding)
  dated : ∀ number file, (number, file) ∈ process.acquired →
    Dated process.kernel.serial number file
  covers : ∀ id owner, process.sockets id = some owner → id ∈ process.used
  paired : ∀ first second serial, (first, second, serial) ∈ process.pairs →
    (first ∈ process.used ∧ second ∈ process.used) ∧
    (∀ owner, process.sockets first = some owner → owner.given.2 = .pairEnd serial false) ∧
    ∀ owner, process.sockets second = some owner → owner.given.2 = .pairEnd serial true

variable {opened : List Nat} {process : Process Id} {id : Id} {owner : Owner}

theorem invariant_start (opened : List Nat) : Invariant opened (start opened : Process Id) :=
  { running := rfl
    exactHandle := nofun
    apart := nofun
    descriptors := accounted_start _ fun _ _ ⟨_, _, listed, _⟩ => nomatch listed
    dated := nofun
    covers := nofun
    paired := nofun }

namespace Invariant

theorem refers (invariant : Invariant opened process) (listed : process.sockets id = some owner) :
    process.RefersTo id owner.given.2 := by
  intro other present isOpen
  rw [listed] at present
  cases present
  exact invariant.descriptors.found ⟨id, owner, listed, holding_open isOpen⟩

theorem alone (invariant : Invariant opened process) {first second : Id} {one two : Owner}
    (listed : process.sockets first = some one) (also : process.sockets second = some two)
    (isOpen : one.handle ≠ -1) (same : one.handle = two.handle) : first = second := by
  have alsoOpen : two.handle ≠ -1 := by
    rw [← same]
    exact isOpen
  apply invariant.apart first second one two listed also isOpen alsoOpen
  have holds : holding two = some (one.handle, two.given.2) := by
    rw [same]
    exact holding_open alsoOpen
  exact invariant.descriptors.sole_holder listed also (holding_open isOpen) holds

theorem owned (invariant : Invariant opened process) : Owned opened process :=
  { running := invariant.running
    exactHandle := invariant.exactHandle
    refers := fun _ _ => invariant.refers
    pairs := by
      intro first second serial listed
      obtain ⟨_, isFirst, isSecond⟩ := invariant.paired first second serial listed
      constructor
      · intro owner present
        rw [← isFirst owner present]
        exact invariant.refers present owner present
      · intro owner present
        rw [← isSecond owner present]
        exact invariant.refers present owner present
    alone := fun _ _ _ _ => invariant.alone
    descriptors := invariant.descriptors
    drained := by
      rintro empty ⟨number, file⟩
      rw [invariant.descriptors.releasedGone]
      constructor
      · intro gone
        exact gone.1
      · intro listed
        refine ⟨listed, fun found => ?_⟩
        obtain ⟨id, owner, present, _⟩ :=
          (invariant.descriptors.owned number file).mpr ⟨listed, found⟩
        rw [empty id] at present
        contradiction }

end Invariant

/-! ### What a step can do -/

section Steps

variable [DecidableEq Id]

/-- The first half of `CreatePair`. -/
def firstEnd (process : Process Id) (first : Id) : Process Id :=
  process.construct first (socketpair process.kernel).2 (socketpair process.kernel).1.1
    ((socketpair process.kernel).1.1, .pairEnd process.kernel.serial false)

def secondEnd (process half : Process Id) (second : Id) : Process Id :=
  half.construct second half.kernel (socketpair process.kernel).1.2
    ((socketpair process.kernel).1.2, .pairEnd process.kernel.serial true)

inductive Transition (process : Process Id) : Action Id → Process Id → Prop where
  | create (id : Id) (unused : id ∉ process.used) :
      Transition process (.create id) (process.construct id process.kernel 0
        (process.kernel.table.next, .unconnected process.kernel.serial))
  | adopt (id : Id) (number : Int) (file : File) (unused : id ∉ process.used)
      (free : process.unowned number = true)
      (found : process.kernel.table.find number = some file) :
      Transition process (.adopt id number)
        (process.construct id process.kernel number (number, file))
  | halfPair (first second : Id) (aborted : (process.firstEnd first).aborted = true) :
      Transition process (.createPair first second) (process.firstEnd first)
  | createPair (first second : Id) (unusedFirst : first ∉ process.used)
      (unusedSecond : second ∉ process.used) (different : first ≠ second)
      (returned : (process.firstEnd first).aborted = false) :
      Transition process (.createPair first second)
        { process.secondEnd (process.firstEnd first) second with
          pairs := (first, second, process.kernel.serial) ::
            (process.secondEnd (process.firstEnd first) second).pairs }
  | accept (id : Id) (unused : id ∉ process.used) :
      Transition process (.accept id) (process.construct id
        (SocketOwnership.accept process.kernel).2 (SocketOwnership.accept process.kernel).1
        ((SocketOwnership.accept process.kernel).1, .connection process.kernel.serial))
  | close (id : Id) (owner : Owner) (listed : process.sockets id = some owner) :
      Transition process (.close id) (process.close id owner (some { owner with handle := -1 }))
  | destroy (id : Id) (owner : Owner) (listed : process.sockets id = some owner) :
      Transition process (.destroy id) (process.close id owner none)

theorem step_cases {next : Process Id} {action : Action Id}
    (enabled : process.step action = some next) : Transition process action next := by
  unfold step at enabled
  split at enabled
  · contradiction
  · cases action with
    | create id =>
        simp only at enabled
        split at enabled
        · contradiction
        · rename_i unused
          cases enabled
          exact .create id unused
    | adopt id number =>
        simp only at enabled
        split at enabled
        · contradiction
        · rename_i allowed
          simp only [not_or, Bool.not_eq_false] at allowed
          split at enabled
          · contradiction
          · rename_i file found
            cases enabled
            exact .adopt id number file allowed.1 allowed.2 found
    | createPair first second =>
        simp only at enabled
        split at enabled
        · contradiction
        · rename_i unused
          simp only [not_or] at unused
          split at enabled
          · rename_i aborted
            cases enabled
            exact .halfPair first second aborted
          · rename_i returned
            cases enabled
            exact .createPair first second unused.1 unused.2.1 unused.2.2
              (Bool.eq_false_iff.mpr returned)
    | accept id =>
        simp only at enabled
        split at enabled
        · contradiction
        · rename_i unused
          cases enabled
          exact .accept id unused
    | close id =>
        simp only at enabled
        split at enabled
        · contradiction
        · rename_i owner listed
          cases enabled
          exact .close id owner listed
    | destroy id =>
        simp only at enabled
        split at enabled
        · contradiction
        · rename_i owner listed
          cases enabled
          exact .destroy id owner listed

end Steps

/-! ### New objects -/

def Shares (one two : Owner) : Prop :=
  one.handle ≠ -1 ∧ two.handle ≠ -1 ∧ one.given.2 = two.given.2

section Steps

variable [DecidableEq Id]

/-- The files stay apart when an object gives way to one that shares its file with none. -/
private theorem apart_replaced {replacement : Option Owner} (invariant : Invariant opened process)
    (alone : ∀ new, replacement = some new → ∀ other old, process.sockets other = some old →
      ¬ Shares old new) :
    ∀ first second one two, Function.update process.sockets id replacement first = some one →
      Function.update process.sockets id replacement second = some two → one.handle ≠ -1 →
      two.handle ≠ -1 → one.given.2 = two.given.2 → first = second := by
  have symmetric : ∀ one two, Shares one two → Shares two one := by
    intro one two shares
    exact ⟨shares.2.1, shares.1, shares.2.2.symm⟩
  have apart : ∀ first second one two, process.sockets first = some one →
      process.sockets second = some two → Shares one two → first = second := by
    intro first second one two here there shares
    exact invariant.apart first second one two here there shares.1 shares.2.1 shares.2.2
  intro first second one two here there isOpen alsoOpen same
  exact apart_update symmetric apart alone first second one two here there
    ⟨isOpen, alsoOpen, same⟩

/-- An object that owns a descriptor of a file that no other object holds. -/
private theorem own_preserves {kernel : Kernel} {number : Int} {file : File}
    (invariant : Invariant opened process) (unused : id ∉ process.used)
    (accounts : Accounted (start opened : Process Id).kernel.table.find kernel.table.find
      (process.acquired ++ [(number, file)]) process.closed
      (Held (Function.update process.sockets id (some ⟨number, (number, file)⟩)) holding))
    (serial : process.kernel.serial ≤ kernel.serial) (dated : Dated kernel.serial number file)
    (fresh : ∀ other owner, process.sockets other = some owner → owner.handle ≠ -1 →
      owner.given.2 ≠ file) :
    Invariant opened (process.own id kernel number (number, file)) := by
  have elsewhere : ∀ {other : Id}, other ∈ process.used → other ≠ id := by
    rintro other member rfl
    exact unused member
  refine ⟨invariant.running, ?_, ?_, accounts, ?_, ?_, ?_⟩
  · apply forall_update fun other owner _ => invariant.exactHandle other owner
    intro owner same
    cases same
    exact Or.inl rfl
  · apply apart_replaced invariant
    intro new same other old present shares
    cases same
    exact fresh other old present shares.1 shares.2.2
  · intro key item listed
    rcases List.mem_append.mp listed with earlier | newest
    · exact (invariant.dated key item earlier).later serial
    · cases List.mem_singleton.mp newest
      exact dated
  · apply forall_update fun other owner _ present =>
      List.mem_cons_of_mem _ (invariant.covers other owner present)
    intro owner _
    exact List.mem_cons_self ..
  · intro first second date listed
    obtain ⟨⟨usedFirst, usedSecond⟩, isFirst, isSecond⟩ :=
      invariant.paired first second date listed
    refine ⟨⟨List.mem_cons_of_mem _ usedFirst, List.mem_cons_of_mem _ usedSecond⟩, ?_, ?_⟩
    · intro owner present
      simp only [own, Function.update_of_ne (elsewhere usedFirst)] at present
      exact isFirst owner present
    · intro owner present
      simp only [own, Function.update_of_ne (elsewhere usedSecond)] at present
      exact isSecond owner present

private theorem own_held {number : Int} {file : File} (invariant : Invariant opened process)
    (unused : id ∉ process.used) (valid : number ≠ -1) :
    ∀ key item, Held (Function.update process.sockets id (some ⟨number, (number, file)⟩))
        holding key item ↔
      Held process.sockets holding key item ∨ (key = number ∧ item = file) := by
  apply held_insert
  · intro old present
    exact absurd (invariant.covers id old present) unused
  · exact holding_open valid

private theorem grant_preserves {kernel : Kernel} {file : File}
    (invariant : Invariant opened process) (unused : id ∉ process.used)
    (table : kernel.table = process.kernel.table.insert file)
    (serial : process.kernel.serial ≤ kernel.serial)
    (dated : Dated kernel.serial process.kernel.table.next file)
    (fresh : ∀ number, (number, file) ∉ process.acquired) :
    Invariant opened
      (process.own id kernel process.kernel.table.next (process.kernel.table.next, file)) := by
  have natural := process.kernel.table.next_nonneg
  have valid : process.kernel.table.next ≠ -1 := by omega
  apply own_preserves invariant unused _ serial dated
  · intro other owner present isOpen same
    have held := (invariant.descriptors.owned _ _).mp ⟨other, owner, present, holding_open isOpen⟩
    rw [same] at held
    exact fresh _ held.1
  · rw [table, HandleTable.insert_find]
    exact invariant.descriptors.acquire process.kernel.table.next_free (fresh _)
      (own_held invariant unused valid)

private theorem adopt_preserves {number : Int} {file : File}
    (invariant : Invariant opened process) (unused : id ∉ process.used)
    (free : process.unowned number = true)
    (found : process.kernel.table.find number = some file) :
    Invariant opened (process.own id process.kernel number (number, file)) := by
  have natural := process.kernel.table.find_nonneg found
  have valid : number ≠ -1 := by omega
  have unlisted : (number, file) ∉ process.acquired := by
    intro listed
    obtain ⟨other, owner, present, holds⟩ :=
      (invariant.descriptors.owned number file).mpr ⟨listed, found⟩
    have others := List.all_eq_true.mp free other (invariant.covers other owner present)
    rw [present] at others
    exact of_decide_eq_true others (open_of_holding holds).2.1
  have inherited : file = .inherited number := by
    have base := (invariant.descriptors.foreign number file unlisted).mp found
    simp only [start, HandleTable.ofNumbers] at base
    split at base
    · exact (Option.some.inj base).symm
    · contradiction
  apply own_preserves invariant unused _ (Nat.le_refl _)
  · rw [inherited]
    exact rfl
  · intro other owner present isOpen same
    have held := (invariant.descriptors.owned _ _).mp ⟨other, owner, present, holding_open isOpen⟩
    have dated := invariant.dated _ _ held.1
    rw [same] at dated held
    rw [inherited] at dated
    rw [dated] at held
    exact unlisted held.1
  · exact invariant.descriptors.adopt found unlisted (own_held invariant unused valid)

theorem construct_positive {kernel : Kernel} {handle : Int} (positive : 0 < handle)
    (given : Int × File) :
    process.construct id kernel handle given = process.own id kernel handle given := by
  have different : handle ≠ 0 := by omega
  simp [construct, SocketOwnership.construct, different, positive]

theorem construct_zero (kernel : Kernel) (given : Int × File) :
    process.construct id kernel 0 given =
      if 0 < kernel.table.next then process.own id (socket kernel).2 kernel.table.next given
      else process.abort := by
  by_cases positive : 0 < kernel.table.next
  · simp [construct, SocketOwnership.construct, socket, positive]
  · simp [construct, SocketOwnership.construct, socket, positive]

theorem next_positive {table : HandleTable File} (taken : table.find 0 ≠ none) :
    0 < table.next := by
  have natural := table.next_nonneg
  have different : table.next ≠ 0 := by
    intro zero
    exact taken (table.next_eq_zero_iff.mp zero)
  omega

omit [DecidableEq Id] in
private theorem dated_fresh (invariant : Invariant opened process) {file : File}
    (future : ∀ number, ¬ Dated process.kernel.serial number file) (number : Int) :
    (number, file) ∉ process.acquired := by
  intro listed
  exact future number (invariant.dated number file listed)

omit [DecidableEq Id] in
private theorem pairs_preserves {first second : Id} {serial : Nat} {one two : Owner}
    (invariant : Invariant opened process) (here : process.sockets first = some one)
    (there : process.sockets second = some two) (isFirst : one.given.2 = .pairEnd serial false)
    (isSecond : two.given.2 = .pairEnd serial true) :
    Invariant opened { process with pairs := (first, second, serial) :: process.pairs } := by
  refine ⟨invariant.running, invariant.exactHandle, invariant.apart, invariant.descriptors,
    invariant.dated, invariant.covers, ?_⟩
  intro left right date listed
  rcases List.mem_cons.mp listed with newest | earlier
  · cases newest
    refine ⟨⟨invariant.covers _ _ here, invariant.covers _ _ there⟩, ?_, ?_⟩
    · intro owner present
      rw [here] at present
      cases present
      exact isFirst
    · intro owner present
      rw [there] at present
      cases present
      exact isSecond
  · exact invariant.paired left right date earlier

/-- The two ends are opened one after the other, and each gets its object. -/
private theorem ends_preserve {first second : Id} (invariant : Invariant opened process)
    (unusedFirst : first ∉ process.used) (unusedSecond : second ∉ process.used)
    (different : first ≠ second) :
    Invariant opened
      ((process.own first (socketpair process.kernel).2 (socketpair process.kernel).1.1
        ((socketpair process.kernel).1.1, .pairEnd process.kernel.serial false)).own second
        (socketpair process.kernel).2 (socketpair process.kernel).1.2
        ((socketpair process.kernel).1.2, .pairEnd process.kernel.serial true)) := by
  have half : Invariant opened (process.own first
      { table := process.kernel.table.insert (.pairEnd process.kernel.serial false)
        serial := process.kernel.serial + 1 }
      process.kernel.table.next
      (process.kernel.table.next, .pairEnd process.kernel.serial false)) := by
    apply grant_preserves invariant unusedFirst rfl (Nat.le_succ _)
    · exact Nat.lt_succ_self _
    · exact dated_fresh invariant fun _ => Nat.lt_irrefl _
  have remaining : second ∉ first :: process.used := by
    intro listed
    rcases List.mem_cons.mp listed with same | earlier
    · exact different same.symm
    · exact unusedSecond earlier
  have other : ∀ number, (number, File.pairEnd process.kernel.serial true) ∉
      process.acquired ++
        [(process.kernel.table.next, File.pairEnd process.kernel.serial false)] := by
    intro number listed
    rcases List.mem_append.mp listed with earlier | newest
    · exact Nat.lt_irrefl _ (invariant.dated _ _ earlier)
    · cases List.mem_singleton.mp newest
  have table : (socketpair process.kernel).2.table =
      (process.kernel.table.insert (.pairEnd process.kernel.serial false)).insert
        (.pairEnd process.kernel.serial true) := rfl
  exact grant_preserves half remaining table (Nat.le_refl _) (Nat.lt_succ_self _) other

private theorem createPair_preserves {first second : Id} (invariant : Invariant opened process)
    (spares : process.SparesZero (.createPair first second)) (unusedFirst : first ∉ process.used)
    (unusedSecond : second ∉ process.used) (different : first ≠ second) :
    Invariant opened
      { process.secondEnd (process.firstEnd first) second with
        pairs := (first, second, process.kernel.serial) ::
          (process.secondEnd (process.firstEnd first) second).pairs } := by
  have oneFits : 0 < (socketpair process.kernel).1.1 := next_positive spares
  have twoFits : 0 < (socketpair process.kernel).1.2 := by
    apply next_positive
    intro free
    cases taken : process.kernel.table.find 0 with
    | none => exact spares taken
    | some file =>
        have kept : (process.kernel.table.insert
            (.pairEnd process.kernel.serial false)).find 0 = some file :=
          process.kernel.table.insert_find_of_some taken
        rw [kept] at free
        contradiction
  rw [secondEnd, firstEnd, construct_positive oneFits, construct_positive twoFits]
  apply pairs_preserves (ends_preserve invariant unusedFirst unusedSecond different)
  · simp only [own, Function.update_of_ne different, Function.update_self]
    rfl
  · simp only [own, Function.update_self]
    rfl
  · rfl
  · rfl

/-! ### Objects that are closed -/

private theorem left_preserves {left : Option Owner} {table : HandleTable File}
    {closed : List (Int × File)} (invariant : Invariant opened process)
    (listed : process.sockets id = some owner)
    (after : ∀ new, left = some new → new.handle = -1 ∧ new.given = owner.given)
    (accounts : Accounted (start opened : Process Id).kernel.table.find table.find
      process.acquired closed (Held (Function.update process.sockets id left) holding)) :
    Invariant opened
      { process with
        kernel := { process.kernel with table := table }
        sockets := Function.update process.sockets id left
        closed := closed } := by
  have given : ∀ other found, Function.update process.sockets id left other = some found →
      ∃ old, process.sockets other = some old ∧ found.given = old.given := by
    apply forall_update
    · intro other found _ present
      exact ⟨found, present, rfl⟩
    · intro new same
      exact ⟨owner, listed, (after new same).2⟩
  refine ⟨invariant.running, ?_, ?_, accounts, invariant.dated, ?_, ?_⟩
  · apply forall_update fun other found _ => invariant.exactHandle other found
    intro new same
    exact Or.inr (after new same).1
  · apply apart_replaced invariant
    intro new same other old _ shares
    exact shares.2.1 (after new same).1
  · apply forall_update fun other found _ => invariant.covers other found
    intro new _
    exact invariant.covers id owner listed
  · intro first second serial pair
    obtain ⟨used, isFirst, isSecond⟩ := invariant.paired first second serial pair
    refine ⟨used, ?_, ?_⟩
    · intro found present
      obtain ⟨old, before, same⟩ := given first found present
      rw [same]
      exact isFirst old before
    · intro found present
      obtain ⟨old, before, same⟩ := given second found present
      rw [same]
      exact isSecond old before

private theorem close_preserves {left : Option Owner} (invariant : Invariant opened process)
    (listed : process.sockets id = some owner)
    (after : ∀ new, left = some new → new.handle = -1 ∧ new.given = owner.given) :
    Invariant opened (process.close id owner left) := by
  have silent : ∀ new, left = some new → holding new = none :=
    fun new same => holding_closed (after new same).1
  by_cases isOpen : owner.handle = -1
  · rw [close, if_neg (not_not.mpr isOpen)]
    apply left_preserves invariant listed after
    apply invariant.descriptors.congr
    apply held_update _ silent
    intro old present
    rw [listed] at present
    cases present
    exact holding_closed isOpen
  · have found := invariant.refers listed owner listed isOpen
    rw [close, if_pos isOpen, found]
    apply left_preserves invariant listed after
    rw [HandleTable.remove_find]
    apply invariant.descriptors.giveBack ⟨id, owner, listed, holding_open isOpen⟩
    apply held_erase listed (holding_open isOpen) silent
    intro other also file present holds
    obtain ⟨alsoOpen, same, _⟩ := open_of_holding holds
    exact invariant.alone present listed alsoOpen same

/-! ### Every step -/

theorem invariant_step (action : Action Id) (next : Process Id)
    (invariant : Invariant opened process) (spares : process.SparesZero action)
    (enabled : process.step action = some next) : Invariant opened next := by
  cases step_cases enabled with
  | create id unused =>
      rw [construct_zero, if_pos (next_positive spares)]
      apply grant_preserves invariant unused rfl (Nat.le_succ _)
      · exact Nat.lt_succ_self _
      · exact dated_fresh invariant fun _ => Nat.lt_irrefl _
  | adopt id number file unused free found =>
      have natural := process.kernel.table.find_nonneg found
      have positive : 0 < number := lt_of_le_of_ne natural (Ne.symm spares)
      rw [construct_positive positive]
      exact adopt_preserves invariant unused free found
  | halfPair first second aborted =>
      have fits : 0 < (socketpair process.kernel).1.1 := next_positive spares
      rw [firstEnd, construct_positive fits] at aborted
      exact absurd aborted (by simp [own, invariant.running])
  | createPair first second unusedFirst unusedSecond different =>
      exact createPair_preserves invariant spares unusedFirst unusedSecond different
  | accept id unused =>
      have fits : 0 < (SocketOwnership.accept process.kernel).1 := next_positive spares
      rw [construct_positive fits]
      apply grant_preserves invariant unused rfl (Nat.le_succ _)
      · exact Nat.lt_succ_self _
      · exact dated_fresh invariant fun _ => Nat.lt_irrefl _
  | close id owner listed =>
      apply close_preserves invariant listed
      intro new same
      cases same
      exact ⟨rfl, rfl⟩
  | destroy id owner listed => exact close_preserves invariant listed nofun

/-! ### The descriptor 0 -/

/-- Made for 0, an object has the descriptor of a new socket, or its constructor fails. -/
private theorem zero_object (process : Process Id) (id : Id) (kernel : Kernel) {handle : Int}
    (zero : handle = 0) (file : File) :
    (process.construct id kernel handle (handle, file)).aborted = true ∨
      ∃ owner, (process.construct id kernel handle (handle, file)).sockets id = some owner ∧
        0 < owner.handle ∧ owner.given.1 = 0 := by
  rw [zero, construct_zero]
  split
  · rename_i positive
    exact Or.inr ⟨⟨kernel.table.next, (0, file)⟩, Function.update_self .., positive, rfl⟩
  · exact Or.inl rfl

omit [DecidableEq Id] in
private theorem wrong_handle_breaks (listed : process.sockets id = some owner)
    (positive : 0 < owner.handle) (zero : owner.given.1 = 0) : ¬ Owned opened process := by
  intro owned
  have handle := owned.exactHandle id owner listed
  omega

private theorem zero_breaks (kernel : Kernel) {handle : Int} (zero : handle = 0) (file : File) :
    ¬ Owned opened (process.construct id kernel handle (handle, file)) := by
  rcases zero_object process id kernel zero file with aborted | ⟨owner, listed, positive, given⟩
  · intro owned
    rw [owned.running] at aborted
    contradiction
  · exact wrong_handle_breaks listed positive given

theorem construct_sockets_of_ne {other : Id} (different : other ≠ id) (kernel : Kernel)
    (handle : Int) (given : Int × File) :
    (process.construct id kernel handle given).sockets other = process.sockets other := by
  unfold construct
  split
  · rfl
  · exact Function.update_of_ne different ..

theorem next_zero {table : HandleTable File} (free : ¬ table.find 0 ≠ none) : table.next = 0 :=
  table.next_eq_zero_iff.mpr (not_not.mp free)

private theorem unconnected_breaks (zero : process.kernel.table.next = 0) :
    ¬ Owned opened (process.construct id process.kernel 0
      (process.kernel.table.next, .unconnected process.kernel.serial)) := by
  rw [construct_zero, if_neg (by omega)]
  intro owned
  exact absurd owned.running (by simp [abort])

theorem zero_step_breaks (action : Action Id) (next : Process Id)
    (fails : ¬ process.SparesZero action) (enabled : process.step action = some next) :
    ¬ Owned opened next := by
  cases step_cases enabled with
  | close id owner listed => exact absurd trivial fails
  | destroy id owner listed => exact absurd trivial fails
  | create id unused => exact unconnected_breaks (next_zero fails)
  | adopt id number file unused free found => exact zero_breaks _ (not_not.mp fails) _
  | accept id unused => exact zero_breaks _ (next_zero fails) _
  | halfPair first second aborted =>
      intro owned
      rw [owned.running] at aborted
      contradiction
  | createPair first second _ _ different returned =>
      have zero : (socketpair process.kernel).1.1 = 0 := next_zero fails
      rcases zero_object process first (socketpair process.kernel).2 zero
        (.pairEnd process.kernel.serial false) with aborted | ⟨owner, listed, positive, given⟩
      · rw [firstEnd, aborted] at returned
        contradiction
      · refine @wrong_handle_breaks _ _ _ first owner ?_ positive given
        change (process.secondEnd (process.firstEnd first) second).sockets first = some owner
        rw [secondEnd, construct_sockets_of_ne different]
        exact listed

/-! ### Every run -/

/-- Ownership holds in every state of a run exactly when no step hands out the
descriptor 0 or makes a Socket for it. -/
theorem owned_iff_spares_zero (opened : List Nat) (actions : List (Action Id)) :
    Always step (Owned opened) (start opened : Process Id) actions ↔
      Respects step SparesZero (start opened : Process Id) actions :=
  always_iff_respects (fun _ => True) (Invariant opened)
    (fun _ action next invariant _ spares => invariant_step action next invariant spares)
    (fun _ invariant => invariant.owned)
    (fun _ action next _ => zero_step_breaks action next)
    (invariant_start opened) (fun _ _ => trivial)

end Steps

/-- In a process that has closed its standard input, the first socket of a pair gets
the descriptor of a third socket, and the first end of the pair has no owner. -/
theorem pair_without_standard_input :
    (run step (start [1, 2]) [.createPair false true]).map
        (fun process => (process.sockets false, process.kernel.table.find 0)) =
      some (some ⟨4, (0, .pairEnd 0 false)⟩, some (.pairEnd 0 false)) ∧
      ¬ Always step (Owned [1, 2]) (start [1, 2]) [.createPair false true] := by
  have taken : (run step (start [1, 2]) [.createPair false true]).map
      (fun process => (process.sockets false, process.kernel.table.find 0)) =
        some (some ⟨4, (0, .pairEnd 0 false)⟩, some (.pairEnd 0 false)) := rfl
  refine ⟨taken, fun always => ?_⟩
  obtain ⟨process, performed, state⟩ := Option.map_eq_some_iff.mp taken
  have handle := (always.final performed).exactHandle false _ (Prod.mk.inj state).1
  simp at handle

end Process

end SocketOwnership

end CoreLib
