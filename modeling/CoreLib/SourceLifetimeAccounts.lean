/-
The descriptors of sources and wait sets.

Every descriptor that an allocator or a WaitSet constructor has opened is either open and
belongs to the live object that opened it, or has been closed once.
-/

import CoreLib.SourceLifetime

set_option autoImplicit false

namespace CoreLib.SourceLifetime

open Foundation

variable {Id : Type} [DecidableEq Id]

def File.serial : File → Option Nat
  | .foreign _ => none
  | .pipe serial _ => some serial
  | .timer serial => some serial
  | .epoll serial => some serial

def Source.owned (source : Source Id) : List (Int × File) :=
  if source.handlesAllocated then
    match source.maker with
    | .AsTrivial => [(source.handles.1, .pipe source.serial false),
        (source.handles.2, .pipe source.serial true)]
    | .AsTimer => [(source.handles.1, .timer source.serial)]
    | .lent _ => []
    | .nothing => []
  else []

def WaitSet.owned (set : WaitSet Id) : List (Int × File) := [(set.handle, .epoll set.serial)]

omit [DecidableEq Id] in
theorem Source.owned_files {source : Source Id} {number : Int} {file : File}
    (owned : (number, file) ∈ source.owned) : file ∈ source.files := by
  rw [Source.owned] at owned
  split at owned
  · cases made : source.maker with
    | AsTrivial =>
        simp only [made, List.mem_cons, Prod.mk.injEq, List.not_mem_nil, or_false] at owned
        simp only [Source.files, made, List.mem_cons, List.not_mem_nil, or_false]
        exact owned.imp And.right And.right
    | AsTimer =>
        simp only [made, List.mem_singleton, Prod.mk.injEq] at owned
        simp only [Source.files, made, List.mem_singleton]
        exact owned.2
    | lent handles => simp [made] at owned
    | nothing => simp [made] at owned
  · contradiction

omit [DecidableEq Id] in
theorem Source.serial_files {source : Source Id} {file : File} (member : file ∈ source.files) :
    file.serial = some source.serial ∧ ∀ serial, file ≠ .epoll serial := by
  rw [Source.files] at member
  cases made : source.maker with
  | AsTrivial =>
      simp only [made, List.mem_cons, List.not_mem_nil, or_false] at member
      rcases member with same | same
      · rw [same]
        exact ⟨rfl, fun _ => nofun⟩
      · rw [same]
        exact ⟨rfl, fun _ => nofun⟩
  | AsTimer =>
      simp only [made, List.mem_singleton] at member
      rw [member]
      exact ⟨rfl, fun _ => nofun⟩
  | lent handles => simp [made] at member
  | nothing => simp [made] at member

namespace Process

variable {process : Process Id}

/-! ### Opening and closing -/

def closeAll (numbers : List Int) (process : Process Id) : Process Id :=
  numbers.foldl closeHandle process

structure Gives (numbers : List Int) (before after : Process Id) : Prop where
  failed : after.failed = before.failed
  nextSerial : after.nextSerial = before.nextSerial
  sources : after.sources = before.sources
  opened : after.opened = before.opened
  waitSets : ∀ id, after.waitSets id =
    (before.waitSets id).map fun set => numbers.foldl WaitSet.forget set
  numbers : ∀ number,
    number ∈ after.table.numbers ↔ number ∈ before.table.numbers ∧ number ∉ numbers

omit [DecidableEq Id] in
theorem Gives.nothing (process : Process Id) : Gives [] process process := by
  refine ⟨rfl, rfl, rfl, rfl, ?_, ?_⟩
  · intro id
    simp
  · intro number
    simp

omit [DecidableEq Id] in
theorem Gives.trans {first second : List Int} {before middle after : Process Id}
    (early : Gives first before middle) (late : Gives second middle after) :
    Gives (first ++ second) before after := by
  refine ⟨late.failed.trans early.failed, late.nextSerial.trans early.nextSerial,
    late.sources.trans early.sources, late.opened.trans early.opened, ?_, ?_⟩
  · intro id
    rw [late.waitSets, early.waitSets, Option.map_map]
    simp only [Function.comp_def, List.foldl_append]
  · intro number
    rw [late.numbers, early.numbers, List.mem_append]
    tauto

omit [DecidableEq Id] in
theorem closeHandle_gives {number : Int} {file : File}
    (found : process.table.find number = some file) :
    Gives [number] process (process.closeHandle number) ∧
      (process.closeHandle number).table.find = Function.update process.table.find number none ∧
      (process.closeHandle number).closed = process.closed ++ [(number, file)] := by
  have closed : process.closeHandle number =
      { process with
        table := process.table.remove number
        closed := process.closed ++ [(number, file)]
        waitSets := fun id => (process.waitSets id).map fun set => set.forget number } := by
    rw [closeHandle, found]
  rw [closed]
  refine ⟨⟨rfl, rfl, rfl, rfl, fun _ => rfl, ?_⟩, rfl, rfl⟩
  intro other
  simp [HandleTable.remove]

omit [DecidableEq Id] in
/-- Closing what is accounted for fails no CL_CHECK. -/
theorem closeAll_spec {base : Int → Option File} {owner : Int → File → Prop}
    (entries : List (Int × File))
    (accounted : Accounted base process.table.find process.opened process.closed owner)
    (owned : ∀ entry ∈ entries, owner entry.1 entry.2)
    (distinct : (entries.map Prod.fst).Nodup) :
    Gives (entries.map Prod.fst) process (closeAll (entries.map Prod.fst) process) ∧
      Accounted base (closeAll (entries.map Prod.fst) process).table.find
        (closeAll (entries.map Prod.fst) process).opened
        (closeAll (entries.map Prod.fst) process).closed
        (fun key item => owner key item ∧ key ∉ entries.map Prod.fst) := by
  induction entries generalizing process owner with
  | nil => exact ⟨.nothing process, accounted.congr (by simp)⟩
  | cons entry entries ih =>
      have held := owned entry (List.mem_cons_self ..)
      obtain ⟨fresh, tail⟩ := List.nodup_cons.mp distinct
      obtain ⟨gives, find, log⟩ := closeHandle_gives (accounted.found held)
      have later : Accounted base (process.closeHandle entry.1).table.find
          (process.closeHandle entry.1).opened (process.closeHandle entry.1).closed
          (fun key item => owner key item ∧ key ≠ entry.1) := by
        rw [find, gives.opened, log]
        exact accounted.giveBack held fun _ _ => Iff.rfl
      have still : ∀ other ∈ entries, owner other.1 other.2 ∧ other.1 ≠ entry.1 := by
        intro other member
        refine ⟨owned other (List.mem_cons_of_mem _ member), ?_⟩
        intro same
        rw [← same] at fresh
        exact fresh (List.mem_map_of_mem member)
      obtain ⟨rest, accounts⟩ := ih later still tail
      refine ⟨gives.trans rest, accounts.congr ?_⟩
      intro key item
      simp only [List.map_cons, List.mem_cons, not_or, ne_eq]
      rw [and_assoc]

structure Takes (entries : List (Int × File)) (before after : Process Id) : Prop where
  failed : after.failed = before.failed
  nextSerial : after.nextSerial = before.nextSerial
  sources : after.sources = before.sources
  waitSets : after.waitSets = before.waitSets
  opened : after.opened = before.opened ++ entries
  numbers : ∀ number, number ∈ after.table.numbers ↔
    number ∈ before.table.numbers ∨ number ∈ entries.map Prod.fst

omit [DecidableEq Id] in
theorem openFile_takes (process : Process Id) (file : File) :
    Takes [(process.table.next, file)] process (process.openFile file) := by
  refine ⟨rfl, rfl, rfl, rfl, rfl, ?_⟩
  intro number
  simp [openFile, HandleTable.insert, or_comm]

omit [DecidableEq Id] in
theorem Takes.trans {first second : List (Int × File)} {before middle after : Process Id}
    (early : Takes first before middle) (late : Takes second middle after) :
    Takes (first ++ second) before after := by
  refine ⟨late.failed.trans early.failed, late.nextSerial.trans early.nextSerial,
    late.sources.trans early.sources, late.waitSets.trans early.waitSets, ?_, ?_⟩
  · rw [late.opened, early.opened, List.append_assoc]
  · intro number
    rw [late.numbers, early.numbers, List.map_append, List.mem_append, or_assoc]

omit [DecidableEq Id] in
theorem openFile_accounted {base : Int → Option File} {owner : Int → File → Prop}
    (accounted : Accounted base process.table.find process.opened process.closed owner)
    {file : File} (fresh : ∀ number, (number, file) ∉ process.opened) :
    Accounted base (process.openFile file).table.find (process.openFile file).opened
      (process.openFile file).closed
      (fun key item => owner key item ∨ (key = process.table.next ∧ item = file)) :=
  accounted.acquire process.table.next_free (fresh _) fun _ _ => Iff.rfl

omit [DecidableEq Id] in
theorem openFiles_spec {base : Int → Option File} {owner : Int → File → Prop}
    (files : List File)
    (accounted : Accounted base process.table.find process.opened process.closed owner)
    (fresh : ∀ file ∈ files, ∀ number, (number, file) ∉ process.opened)
    (distinct : files.Nodup) :
    ∃ entries, entries.map Prod.snd = files ∧
      entries.map Prod.fst = (openFiles files process).1 ∧
      Takes entries process (openFiles files process).2 ∧
      Accounted base (openFiles files process).2.table.find (openFiles files process).2.opened
        (openFiles files process).2.closed
        (fun key item => owner key item ∨ (key, item) ∈ entries) := by
  induction files generalizing process owner with
  | nil =>
      refine ⟨[], rfl, rfl, ⟨rfl, rfl, rfl, rfl, (List.append_nil _).symm, by simp [openFiles]⟩, ?_⟩
      exact accounted.congr (by simp)
  | cons file files ih =>
      obtain ⟨new, tail⟩ := List.nodup_cons.mp distinct
      have takes := openFile_takes process file
      have later := openFile_accounted accounted (fresh file (List.mem_cons_self ..))
      have still : ∀ other ∈ files, ∀ number, (number, other) ∉ (process.openFile file).opened := by
        intro other member number listed
        rw [takes.opened, List.mem_append, List.mem_singleton] at listed
        rcases listed with early | late
        · exact fresh other (List.mem_cons_of_mem _ member) number early
        · cases late
          exact new member
      obtain ⟨entries, names, numbers, rest, accounts⟩ := ih later still tail
      refine ⟨(process.table.next, file) :: entries, ?_, ?_, takes.trans rest, accounts.congr ?_⟩
      · rw [List.map_cons, names]
      · rw [List.map_cons, numbers]
        rfl
      · intro key item
        rw [List.mem_cons, Prod.mk.injEq, or_assoc]

/-! ### The accounts -/

def Owns (process : Process Id) (number : Int) (file : File) : Prop :=
  HeldAmong process.sources Source.owned number file ∨
    HeldAmong process.waitSets WaitSet.owned number file

/-- Open descriptors belong to live objects, and live objects have serials of their own. -/
structure Accounts (base : Int → Option File) (process : Process Id) : Prop where
  running : process.failed = false
  accounted : Accounted base process.table.find process.opened process.closed process.Owns
  serials : ∀ number file, (number, file) ∈ process.opened →
    ∃ serial < process.nextSerial, file.serial = some serial
  older : ∀ id source, process.sources id = some source → source.serial < process.nextSerial
  setOlder : ∀ id set, process.waitSets id = some set → set.serial < process.nextSerial
  apart : ∀ first second one two, process.sources first = some one →
    process.sources second = some two → one.serial = two.serial → first = second
  setApart : ∀ first second one two, process.waitSets first = some one →
    process.waitSets second = some two → one.serial = two.serial → first = second
  unopened : ∀ id source, process.sources id = some source → source.handlesAllocated = false →
    ∀ file ∈ source.files, ∀ number, (number, file) ∉ process.opened
  single : ∀ id source, process.sources id = some source → source.handlesAllocated = true →
    source.maker = .AsTimer → source.handles.2 = -1

omit [DecidableEq Id] in
theorem accounts_start (table : HandleTable File) :
    Accounts table.find (start table : Process Id) := by
  have nobody : ∀ number file, ¬ (start table : Process Id).Owns number file := by
    intro number file owns
    rcases owns with ⟨id, source, impossible, _⟩ | ⟨id, set, impossible, _⟩
    · contradiction
    · contradiction
  constructor
  · rfl
  · exact accounted_start table.find nobody
  · intro number file impossible
    contradiction
  · intro id source impossible
    contradiction
  · intro id set impossible
    contradiction
  · intro first second one two impossible
    contradiction
  · intro first second one two impossible
    contradiction
  · intro id source impossible
    contradiction
  · intro id source impossible
    contradiction

/-- What of a source and of a wait set matters to the accounts. -/
def core (source : Source Id) : Nat × Maker × (Int × Int) × Bool :=
  (source.serial, source.maker, source.handles, source.handlesAllocated)

def setCore (set : WaitSet Id) : Nat × Int := (set.serial, set.handle)

omit [DecidableEq Id] in
theorem core_eq {one two : Source Id} (same : core one = core two) :
    one.serial = two.serial ∧ one.maker = two.maker ∧ one.handles = two.handles ∧
      one.handlesAllocated = two.handlesAllocated ∧ one.owned = two.owned ∧
      one.files = two.files := by
  simp only [core, Prod.mk.injEq] at same
  obtain ⟨serial, maker, handles, allocated⟩ := same
  refine ⟨serial, maker, handles, allocated, ?_, ?_⟩
  · simp only [Source.owned, serial, maker, handles, allocated]
  · simp only [Source.files, serial, maker]

omit [DecidableEq Id] in
theorem core_owned (one two : Source Id) (same : core one = core two) : one.owned = two.owned :=
  (core_eq same).2.2.2.2.1

omit [DecidableEq Id] in
theorem setCore_owned (one two : WaitSet Id) (same : setCore one = setCore two) :
    one.owned = two.owned := by
  simp only [setCore, Prod.mk.injEq] at same
  simp only [WaitSet.owned, same]

omit [DecidableEq Id] in
private theorem map_back {Object Core : Type} {shape : Object → Core} {now before : Option Object}
    (same : now.map shape = before.map shape) {object : Object} (listed : now = some object) :
    ∃ old, before = some old ∧ shape old = shape object := by
  rw [listed] at same
  exact Option.map_eq_some_iff.mp same.symm

omit [DecidableEq Id] in
private theorem holdings_same {Object Core : Type} {shape : Object → Core}
    {holding : Object → List (Int × File)}
    (decided : ∀ one two, shape one = shape two → holding one = holding two)
    {now before : Option Object} (same : now.map shape = before.map shape) :
    holdings holding now = holdings holding before := by
  cases now with
  | none =>
      have nothing := Option.map_eq_none_iff.mp same.symm
      rw [nothing]
  | some object =>
      obtain ⟨old, listed, equal⟩ := map_back same rfl
      rw [listed]
      exact (decided old object equal).symm

omit [DecidableEq Id] in
theorem Accounts.shrink {base : Int → Option File} {after : Process Id}
    (accounts : Accounts base process) (failed : after.failed = process.failed)
    (nextSerial : after.nextSerial = process.nextSerial) (opened : after.opened = process.opened)
    (sources : ∀ id now, after.sources id = some now →
      ∃ old, process.sources id = some old ∧ core old = core now)
    (waitSets : ∀ id now, after.waitSets id = some now →
      ∃ old, process.waitSets id = some old ∧ setCore old = setCore now)
    (accounted : Accounted base after.table.find after.opened after.closed after.Owns) :
    Accounts base after := by
  constructor
  · rw [failed]
    exact accounts.running
  · exact accounted
  · rw [opened, nextSerial]
    exact accounts.serials
  · intro id now listed
    obtain ⟨old, earlier, same⟩ := sources id now listed
    rw [nextSerial, ← (core_eq same).1]
    exact accounts.older id old earlier
  · intro id now listed
    obtain ⟨old, earlier, same⟩ := waitSets id now listed
    rw [nextSerial, ← (Prod.mk.inj same).1]
    exact accounts.setOlder id old earlier
  · intro first second one two here there same
    obtain ⟨oldOne, earlier, sameOne⟩ := sources first one here
    obtain ⟨oldTwo, also, sameTwo⟩ := sources second two there
    exact accounts.apart first second oldOne oldTwo earlier also
      ((core_eq sameOne).1.trans (same.trans (core_eq sameTwo).1.symm))
  · intro first second one two here there same
    obtain ⟨oldOne, earlier, sameOne⟩ := waitSets first one here
    obtain ⟨oldTwo, also, sameTwo⟩ := waitSets second two there
    exact accounts.setApart first second oldOne oldTwo earlier also
      ((Prod.mk.inj sameOne).1.trans (same.trans (Prod.mk.inj sameTwo).1.symm))
  · intro id now listed fresh file member number
    obtain ⟨old, earlier, same⟩ := sources id now listed
    obtain ⟨_, _, _, allocated, _, files⟩ := core_eq same
    rw [opened]
    exact accounts.unopened id old earlier (allocated.trans fresh) file (files ▸ member) number
  · intro id now listed ready timer
    obtain ⟨old, earlier, same⟩ := sources id now listed
    obtain ⟨_, maker, handles, allocated, _, _⟩ := core_eq same
    rw [← handles]
    exact accounts.single id old earlier (allocated.trans ready) (maker.trans timer)

omit [DecidableEq Id] in
theorem Accounts.frame {base : Int → Option File} {after : Process Id}
    (accounts : Accounts base process) (failed : after.failed = process.failed)
    (table : after.table = process.table) (nextSerial : after.nextSerial = process.nextSerial)
    (opened : after.opened = process.opened) (closed : after.closed = process.closed)
    (sources : ∀ id, (after.sources id).map core = (process.sources id).map core)
    (waitSets : ∀ id, (after.waitSets id).map setCore = (process.waitSets id).map setCore) :
    Accounts base after := by
  refine accounts.shrink failed nextSerial opened (fun id _ => map_back (sources id))
    (fun id _ => map_back (waitSets id)) ?_
  rw [table, opened, closed]
  apply accounts.accounted.congr
  intro number file
  apply or_congr
  · exact heldAmong_congr fun id => holdings_same core_owned (sources id)
  · exact heldAmong_congr fun id => holdings_same setCore_owned (waitSets id)

/-! ### Objects that come and go -/

theorem Accounts.make {base : Int → Option File} (accounts : Accounts base process) {id : Id}
    (maker : Maker) (absent : process.sources id = none) :
    Accounts base (process.make id maker) := by
  have fresh : ∀ number file, (process.make id maker).Owns number file ↔
      process.Owns number file := by
    intro number file
    apply or_congr_left
    apply heldAmong_keep
    rw [absent]
    rfl
  have others : ∀ other source, process.sources other = some source →
      source.serial ≠ process.nextSerial :=
    fun other source listed => Nat.ne_of_lt (accounts.older other source listed)
  constructor
  · exact accounts.running
  · exact accounts.accounted.congr fresh
  · intro number file listed
    obtain ⟨serial, small, same⟩ := accounts.serials number file listed
    exact ⟨serial, Nat.lt_succ_of_lt small, same⟩
  · apply forall_update
    · intro other source _ listed
      exact Nat.lt_succ_of_lt (accounts.older other source listed)
    · intro source same
      cases same
      exact Nat.lt_succ_self _
  · intro other set listed
    exact Nat.lt_succ_of_lt (accounts.setOlder other set listed)
  · apply apart_update (fun _ _ => Eq.symm) accounts.apart
    intro new same other old listed serials
    cases same
    exact others other old listed serials
  · exact accounts.setApart
  · apply forall_update
    · intro other source _ listed
      exact accounts.unopened other source listed
    · intro source same _ file member number listed
      cases same
      obtain ⟨serial, small, named⟩ := accounts.serials number file listed
      rw [(Source.serial_files member).1] at named
      cases named
      exact Nat.lt_irrefl _ small
  · apply forall_update
    · intro other source _ listed
      exact accounts.single other source listed
    · intro source same ready
      cases same
      contradiction

omit [DecidableEq Id] in
theorem Accounts.sole {base : Int → Option File} (accounts : Accounts base process)
    {first second : Id} {one two : Source Id} {number other : Int} {file : File}
    (here : process.sources first = some one) (there : process.sources second = some two)
    (owned : (number, file) ∈ one.owned) (also : (other, file) ∈ two.owned) : first = second := by
  have serial := (Source.serial_files (Source.owned_files owned)).1
  rw [(Source.serial_files (Source.owned_files also)).1] at serial
  exact accounts.apart first second one two here there (Option.some.inj serial).symm

omit [DecidableEq Id] in
theorem Accounts.same_file {base : Int → Option File} (accounts : Accounts base process)
    {number : Int} {file other : File} (owned : process.Owns number file)
    (also : process.Owns number other) : file = other := by
  have here := accounts.accounted.found owned
  rw [accounts.accounted.found also] at here
  exact (Option.some.inj here).symm

omit [DecidableEq Id] in
theorem deallocate_eq {source : Source Id} (ready : source.handlesAllocated = true)
    (single : source.maker = .AsTimer → source.handles.2 = -1) :
    process.deallocate source = closeAll (source.owned.map Prod.fst) process := by
  cases made : source.maker with
  | AsTrivial => simp [deallocate, Source.owned, made, ready, closeAll]
  | AsTimer => simp [deallocate, Source.owned, made, ready, closeAll, single made]
  | lent handles => simp [deallocate, Source.owned, made, ready, closeAll]
  | nothing => simp [deallocate, Source.owned, made, ready, closeAll]

theorem destroySource_eq {id : Id} {source : Source Id}
    (single : source.handlesAllocated = true → source.maker = .AsTimer → source.handles.2 = -1) :
    process.destroySource id source = closeAll (source.owned.map Prod.fst)
      { process with sources := Function.update process.sources id none } := by
  unfold destroySource
  cases ready : source.handlesAllocated with
  | false => simp [Source.owned, ready, closeAll]
  | true =>
      simp only [if_true]
      exact deallocate_eq ready (single ready)

omit [DecidableEq Id] in
theorem Accounts.owned_nodup {base : Int → Option File} (accounts : Accounts base process)
    {id : Id} {source : Source Id} (listed : process.sources id = some source) :
    (source.owned.map Prod.fst).Nodup := by
  have different : source.handlesAllocated = true → source.maker = .AsTrivial →
      source.handles.1 ≠ source.handles.2 := by
    intro ready made same
    have reading : process.Owns source.handles.1 (.pipe source.serial false) :=
      Or.inl ⟨id, source, listed, by simp [Source.owned, ready, made]⟩
    have writing : process.Owns source.handles.1 (.pipe source.serial true) :=
      Or.inl ⟨id, source, listed, by simp [Source.owned, ready, made, same]⟩
    have equal := accounts.same_file reading writing
    simp at equal
  cases ready : source.handlesAllocated with
  | false => simp [Source.owned, ready]
  | true =>
      cases made : source.maker with
      | AsTrivial => simp [Source.owned, ready, made, different ready made]
      | AsTimer => simp [Source.owned, ready, made]
      | lent handles => simp [Source.owned, ready, made]
      | nothing => simp [Source.owned, ready, made]

omit [DecidableEq Id] in
theorem forgetAll_keeps (numbers : List Int) (set : WaitSet Id) :
    setCore (numbers.foldl WaitSet.forget set) = setCore set ∧
      (numbers.foldl WaitSet.forget set).sources = set.sources := by
  induction numbers generalizing set with
  | nil => exact ⟨rfl, rfl⟩
  | cons number numbers ih =>
      obtain ⟨same, sources⟩ := ih (set.forget number)
      exact ⟨same, sources⟩

omit [DecidableEq Id] in
theorem Gives.setCore {numbers : List Int} {before after : Process Id}
    (gives : Gives numbers before after) (id : Id) :
    (after.waitSets id).map setCore = (before.waitSets id).map setCore := by
  rw [gives.waitSets id, Option.map_map]
  congr 1
  funext set
  exact (forgetAll_keeps numbers set).1

theorem Accounts.owns_without {base : Int → Option File} (accounts : Accounts base process)
    {id : Id} {source : Source Id} (listed : process.sources id = some source)
    {after : Process Id} (sources : after.sources = Function.update process.sources id none)
    (waitSets : ∀ id, (after.waitSets id).map setCore = (process.waitSets id).map setCore)
    (number : Int) (file : File) :
    after.Owns number file ↔
      process.Owns number file ∧ number ∉ source.owned.map Prod.fst := by
  have here : HeldAmong after.sources Source.owned number file ↔
      HeldAmong process.sources Source.owned number file ∧ (number, file) ∉ source.owned := by
    rw [sources, heldAmong_lose]
    · rw [listed]
      rfl
    · intro other found entry present member lost
      rw [listed] at lost
      exact accounts.sole present listed member lost
  have there : HeldAmong after.waitSets WaitSet.owned number file ↔
      HeldAmong process.waitSets WaitSet.owned number file :=
    heldAmong_congr fun id => holdings_same setCore_owned (waitSets id)
  have named : number ∈ source.owned.map Prod.fst → process.Owns number file →
      (number, file) ∈ source.owned := by
    intro member owns
    obtain ⟨⟨same, other⟩, owned, equal⟩ := List.mem_map.mp member
    have also : process.Owns same other := Or.inl ⟨id, source, listed, owned⟩
    simp only at equal
    rw [equal] at also owned
    rw [accounts.same_file owns also]
    exact owned
  rw [Owns, here, there]
  constructor
  · intro owns
    rcases owns with ⟨held, other⟩ | held
    · exact ⟨Or.inl held, fun member => other (named member (Or.inl held))⟩
    · refine ⟨Or.inr held, ?_⟩
      intro member
      have owned := Source.owned_files (named member (Or.inr held))
      obtain ⟨other, set, _, same⟩ := held
      simp only [WaitSet.owned, List.mem_singleton, Prod.mk.injEq] at same
      exact (Source.serial_files owned).2 set.serial same.2
  · intro both
    obtain ⟨held | held, other⟩ := both
    · exact Or.inl ⟨held, fun member => other (List.mem_map_of_mem member)⟩
    · exact Or.inr held

/-- The destructor closes what its source owns, and nothing else. -/
theorem Accounts.destroySource {base : Int → Option File} (accounts : Accounts base process)
    {id : Id} {source : Source Id} (listed : process.sources id = some source) :
    Gives (source.owned.map Prod.fst)
        { process with sources := Function.update process.sources id none }
        (process.destroySource id source) ∧
      Accounts base (process.destroySource id source) := by
  have owned : ∀ entry ∈ source.owned, process.Owns entry.1 entry.2 :=
    fun entry member => Or.inl ⟨id, source, listed, member⟩
  have removed := @closeAll_spec Id
    { process with sources := Function.update process.sources id none } base process.Owns
    source.owned accounts.accounted owned (accounts.owned_nodup listed)
  rw [← destroySource_eq (accounts.single id source listed)] at removed
  obtain ⟨gives, accounted⟩ := removed
  refine ⟨gives, accounts.shrink gives.failed gives.nextSerial gives.opened ?_
    (fun other _ => map_back (gives.setCore other))
    (accounted.congr (accounts.owns_without listed gives.sources gives.setCore))⟩
  rw [gives.sources]
  exact forall_update (fun other found _ present => ⟨found, present, rfl⟩) nofun

/-! ### Lazy allocation -/

omit [DecidableEq Id] in
theorem files_nodup (source : Source Id) : source.files.Nodup := by
  unfold Source.files
  split
  · simp
  · simp
  · simp
  · simp

def allocated (source : Source Id) (numbers : List Int) : Source Id :=
  { source with
    handles := source.returned numbers
    handlesAllocated := true }

omit [DecidableEq Id] in
theorem allocated_owned {source : Source Id} {entries : List (Int × File)}
    (files : entries.map Prod.snd = source.files) :
    (allocated source (entries.map Prod.fst)).owned = entries := by
  cases made : source.maker with
  | AsTrivial =>
      simp only [Source.files, made] at files
      match entries, files with
      | [(reading, _), (writing, _)], rfl =>
          simp [Source.owned, allocated, made, Source.returned]
  | AsTimer =>
      simp only [Source.files, made] at files
      match entries, files with
      | [(number, _)], rfl => simp [Source.owned, allocated, made, Source.returned]
  | lent handles =>
      simp only [Source.files, made, List.map_eq_nil_iff] at files
      simp [Source.owned, allocated, made, files]
  | nothing =>
      simp only [Source.files, made, List.map_eq_nil_iff] at files
      simp [Source.owned, allocated, made, files]

/-- The process that an allocation of the handles of one source makes. -/
structure Allocates (id : Id) (source : Source Id) (entries : List (Int × File))
    (before after : Process Id) : Prop where
  files : entries.map Prod.snd = source.files
  failed : after.failed = before.failed
  nextSerial : after.nextSerial = before.nextSerial
  sources : after.sources = Function.update before.sources id (some
    (allocated source (entries.map Prod.fst)))
  waitSets : after.waitSets = before.waitSets
  opened : after.opened = before.opened ++ entries
  numbers : ∀ number, number ∈ after.table.numbers ↔
    number ∈ before.table.numbers ∨ number ∈ entries.map Prod.fst

section Allocation

variable {base : Int → Option File} {next : Process Id} {id : Id} {source : Source Id}
  {entries : List (Int × File)}

/-- What an allocation opens carries the serial of its source. -/
theorem Allocates.serial (allocates : Allocates id source entries process next) {number : Int}
    {file : File} (member : (number, file) ∈ entries) : file.serial = some source.serial := by
  have named : file ∈ source.files := by
    rw [← allocates.files]
    exact List.mem_map_of_mem member
  exact (Source.serial_files named).1

theorem Allocates.owns (allocates : Allocates id source entries process next)
    (listed : process.sources id = some source) (unready : source.handlesAllocated = false)
    (number : Int) (file : File) :
    next.Owns number file ↔ process.Owns number file ∨ (number, file) ∈ entries := by
  have nothing : source.owned = [] := by simp [Source.owned, unready]
  have more : holdings Source.owned (some (allocated source (entries.map Prod.fst))) =
      holdings Source.owned (process.sources id) ++ entries := by
    rw [listed]
    simp [holdings, allocated_owned allocates.files, nothing]
  rw [Owns, Owns, allocates.sources, allocates.waitSets, heldAmong_gain more]
  exact or_right_comm

theorem Allocates.before (allocates : Allocates id source entries process next)
    (listed : process.sources id = some source) {other : Id} {now : Source Id}
    (present : next.sources other = some now) :
    ∃ old, process.sources other = some old ∧ old.serial = now.serial := by
  revert other now
  rw [allocates.sources]
  apply forall_update
  · intro other now _ present
    exact ⟨now, present, rfl⟩
  · intro now same
    cases same
    exact ⟨source, listed, rfl⟩

theorem Accounts.allocates (accounts : Accounts base process)
    (listed : process.sources id = some source)
    (allocates : Allocates id source entries process next)
    (accounted : Accounted base next.table.find next.opened next.closed next.Owns) :
    Accounts base next := by
  constructor
  · rw [allocates.failed]
    exact accounts.running
  · exact accounted
  · intro number file member
    rw [allocates.opened] at member
    rw [allocates.nextSerial]
    rcases List.mem_append.mp member with early | late
    · exact accounts.serials number file early
    · exact ⟨source.serial, accounts.older id source listed, allocates.serial late⟩
  · intro other now present
    obtain ⟨old, earlier, same⟩ := allocates.before listed present
    rw [allocates.nextSerial, ← same]
    exact accounts.older other old earlier
  · rw [allocates.waitSets, allocates.nextSerial]
    exact accounts.setOlder
  · intro first second one two here there same
    obtain ⟨oldOne, earlier, serialOne⟩ := allocates.before listed here
    obtain ⟨oldTwo, also, serialTwo⟩ := allocates.before listed there
    exact accounts.apart first second oldOne oldTwo earlier also
      (serialOne.trans (same.trans serialTwo.symm))
  · rw [allocates.waitSets]
    exact accounts.setApart
  · rw [allocates.sources, allocates.opened]
    apply forall_update
    · intro other found different present unready file member number taken
      rcases List.mem_append.mp taken with early | late
      · exact accounts.unopened other found present unready file member number early
      · have serials := allocates.serial late
        rw [(Source.serial_files member).1] at serials
        exact different (accounts.apart other id found source present listed
          (Option.some.inj serials))
    · intro found same unready
      cases same
      contradiction
  · rw [allocates.sources]
    apply forall_update
    · intro other found _ present
      exact accounts.single other found present
    · intro found same _ timer
      cases same
      simp only [allocated] at timer
      simp [allocated, Source.returned, timer]

/-- `handles` allocates at the first call, and later ones change nothing. -/
theorem Accounts.handles (accounts : Accounts base process)
    (listed : process.sources id = some source) :
    Accounts base (process.handles id) ∧
      ((source.handlesAllocated = true ∧ process.handles id = process) ∨
        (source.handlesAllocated = false ∧
          ∃ entries, Allocates id source entries process (process.handles id))) := by
  cases ready : source.handlesAllocated with
  | true =>
      have same : process.handles id = process := by
        simp only [Process.handles, listed, ready, if_true]
      rw [same]
      exact ⟨accounts, Or.inl ⟨rfl, rfl⟩⟩
  | false =>
      have fresh := accounts.unopened id source listed ready
      obtain ⟨entries, files, numbers, takes, accounted⟩ :=
        openFiles_spec source.files accounts.accounted fresh (files_nodup source)
      have result : process.handles id = (openFiles source.files process).2.setSource id
          (allocated source (entries.map Prod.fst)) := by
        simp only [Process.handles, listed, ready, Bool.false_eq_true, if_false, numbers]
        rfl
      have allocates : Allocates id source entries process (process.handles id) := by
        rw [result]
        refine ⟨files, takes.failed, takes.nextSerial, ?_, takes.waitSets, takes.opened,
          takes.numbers⟩
        rw [← takes.sources]
        rfl
      have balanced := accounted.congr (allocates.owns listed ready)
      refine ⟨accounts.allocates listed allocates ?_, Or.inr ⟨rfl, entries, allocates⟩⟩
      -- the new cache of the source is the only thing that the opening of files left undone
      rw [result] at balanced ⊢
      exact balanced

end Allocation

/-! ### Wait sets -/

theorem Accounts.createWaitSet {base : Int → Option File} (accounts : Accounts base process)
    {id : Id} (absent : process.waitSets id = none) :
    Accounts base (process.createWaitSet id) := by
  have unopened : ∀ number, (number, File.epoll process.nextSerial) ∉ process.opened := by
    intro number listed
    obtain ⟨serial, small, same⟩ := accounts.serials number _ listed
    cases same
    exact Nat.lt_irrefl _ small
  have accounted := openFile_accounted accounts.accounted unopened
  have owns : ∀ number file, (process.createWaitSet id).Owns number file ↔
      process.Owns number file ∨
        (number = process.table.next ∧ file = .epoll process.nextSerial) := by
    intro number file
    have more : holdings WaitSet.owned (some
        { serial := process.nextSerial
          handle := process.table.next
          sources := []
          interest := fun _ => none : WaitSet Id }) =
        holdings WaitSet.owned (process.waitSets id) ++
          [(process.table.next, .epoll process.nextSerial)] := by
      rw [absent]
      rfl
    have gained := @heldAmong_gain Int File Id (WaitSet Id) process.waitSets WaitSet.owned number
      file _ id _ _ more
    rw [List.mem_singleton, Prod.mk.injEq] at gained
    rw [Owns, Owns, or_assoc, ← gained]
    rfl
  constructor
  · exact accounts.running
  · exact accounted.congr owns
  · intro number file listed
    rcases List.mem_append.mp listed with early | late
    · obtain ⟨serial, small, same⟩ := accounts.serials number file early
      exact ⟨serial, Nat.lt_succ_of_lt small, same⟩
    · rw [List.mem_singleton, Prod.mk.injEq] at late
      exact ⟨process.nextSerial, Nat.lt_succ_self _, by rw [late.2]; rfl⟩
  · intro other source listed
    exact Nat.lt_succ_of_lt (accounts.older other source listed)
  · apply forall_update
    · intro other set _ listed
      exact Nat.lt_succ_of_lt (accounts.setOlder other set listed)
    · intro set same
      cases same
      exact Nat.lt_succ_self _
  · exact accounts.apart
  · apply apart_update (fun _ _ => Eq.symm) accounts.setApart
    intro new same other old listed serials
    cases same
    have older := accounts.setOlder other old listed
    simp only at serials
    omega
  · intro other source listed unready file member number late
    rcases List.mem_append.mp late with early | new
    · exact accounts.unopened other source listed unready file member number early
    · rw [List.mem_singleton, Prod.mk.injEq] at new
      exact (Source.serial_files member).2 process.nextSerial new.2
  · exact accounts.single

/-- The wait set without its object, once its descriptor is closed. -/
def closeWaitSet (process : Process Id) (id : Id) (set : WaitSet Id) : Process Id :=
  { process.closeHandle set.handle with
    waitSets := Function.update (process.closeHandle set.handle).waitSets id none }

theorem Accounts.closeWaitSet {base : Int → Option File} (accounts : Accounts base process)
    {id : Id} {set : WaitSet Id} (listed : process.waitSets id = some set) :
    Gives [set.handle] process (process.closeHandle set.handle) ∧
      Accounts base (process.closeWaitSet id set) := by
  have own : process.Owns set.handle (.epoll set.serial) :=
    Or.inr ⟨id, set, listed, List.mem_singleton_self _⟩
  obtain ⟨gives, find, log⟩ := closeHandle_gives (accounts.accounted.found own)
  have given : Accounted base (process.closeHandle set.handle).table.find
      (process.closeHandle set.handle).opened (process.closeHandle set.handle).closed
      (fun key item => process.Owns key item ∧ key ≠ set.handle) := by
    rw [find, gives.opened, log]
    exact accounts.accounted.giveBack own fun _ _ => Iff.rfl
  have waitSets := gives.setCore
  have here : (process.closeHandle set.handle).waitSets id = some ([set.handle].foldl
      WaitSet.forget set) := by
    rw [gives.waitSets, listed, Option.map_some]
  have owns : ∀ number file, (process.closeWaitSet id set).Owns number file ↔
      process.Owns number file ∧ number ≠ set.handle := by
    intro number file
    have same : HeldAmong (process.closeHandle set.handle).waitSets WaitSet.owned number file ↔
        HeldAmong process.waitSets WaitSet.owned number file :=
      heldAmong_congr fun other => holdings_same setCore_owned (waitSets other)
    have kept : HeldAmong (process.closeWaitSet id set).waitSets WaitSet.owned number file ↔
        HeldAmong process.waitSets WaitSet.owned number file ∧
          (number, file) ∉ [(set.handle, File.epoll set.serial)] := by
      rw [← same, Process.closeWaitSet, heldAmong_lose]
      · rw [here]
        rfl
      · intro other found entry present member lost
        rw [here] at lost
        obtain ⟨old, earlier, equal⟩ := map_back (waitSets other) present
        have serial : found.serial = set.serial := by
          rw [WaitSet.owned, List.mem_singleton] at member
          have single : entry = (set.handle, File.epoll set.serial) := List.mem_singleton.mp lost
          rw [member] at single
          exact File.epoll.inj (Prod.mk.inj single).2
        exact accounts.setApart other id old set earlier listed
          ((Prod.mk.inj equal).1.trans serial)
    have sources : (process.closeWaitSet id set).sources = process.sources := gives.sources
    rw [Owns, Owns, kept, sources, List.mem_singleton, Prod.mk.injEq]
    constructor
    · intro held
      rcases held with held | ⟨held, other⟩
      · refine ⟨Or.inl held, ?_⟩
        intro equal
        rw [equal] at held
        have file_ := accounts.same_file (Or.inl held) own
        obtain ⟨other, source, _, member⟩ := held
        exact (Source.serial_files (Source.owned_files member)).2 set.serial file_
      · refine ⟨Or.inr held, ?_⟩
        intro equal
        rw [equal] at held
        exact other ⟨equal, accounts.same_file (Or.inr held) own⟩
    · intro both
      obtain ⟨held | held, other⟩ := both
      · exact Or.inl held
      · exact Or.inr ⟨held, fun equal => other equal.1⟩
  refine ⟨gives, accounts.shrink gives.failed gives.nextSerial gives.opened ?_ ?_
    (given.congr owns)⟩
  · intro other found present
    exact ⟨found, (congrFun gives.sources other).symm.trans present, rfl⟩
  · exact forall_update (fun other found _ present => map_back (waitSets other) present) nofun

end Process

end CoreLib.SourceLifetime
