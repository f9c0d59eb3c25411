/-
Registrations of sources.

The kernel has bare pointers to sources.  What it has for a wait set are sources that the
wait set holds, under the read handles they have.  Where read handles that are lent are
open and lent once, it has all of them.
-/

import CoreLib.SourceLifetimeReferences

set_option autoImplicit false

namespace CoreLib.SourceLifetime

open Foundation

variable {Id : Type} [DecidableEq Id]

/-- Two sources that have been lent one read handle. -/
def Source.Clash (one two : Source Id) : Prop :=
  ∃ here there, one.maker = .lent here ∧ two.maker = .lent there ∧ here.1 = there.1 ∧
    here.1 ≠ -1

omit [DecidableEq Id] in
theorem Source.Clash.symm (one two : Source Id) (clash : one.Clash two) : two.Clash one := by
  obtain ⟨here, there, made, making, same, handle⟩ := clash
  rw [same] at handle
  exact ⟨there, here, making, made, same.symm, handle⟩

namespace Process

variable {process : Process Id}

/-- What the kernel has are live sources under their own open read handles. -/
def Live (enrolled : Id → Id → Prop) (process : Process Id) : Prop :=
  ∀ waitSet set number id, process.waitSets waitSet = some set →
    set.interest number = some id →
    number ∈ process.table.numbers ∧ enrolled waitSet id ∧
      ∃ source, process.sources id = some source ∧ source.handlesAllocated = true ∧
        source.handles.1 = number

def Complete (enrolled : Id → Id → Prop) (process : Process Id) : Prop :=
  ∀ waitSet id, enrolled waitSet id →
    ∃ set source, process.waitSets waitSet = some set ∧ process.sources id = some source ∧
      source.handlesAllocated = true ∧
      (source.handles.1 ≠ -1 → set.interest source.handles.1 = some id)

/-- Read handles that are lent are open descriptors of others, each lent once. -/
structure Lent (base : Int → Option File) (process : Process Id) : Prop where
  foreign : ∀ number file, base number = some file → file.serial = none
  idle : ∀ id source, process.sources id = some source → source.maker = .nothing →
    source.handles = (-1, -1)
  given : ∀ id source handles, process.sources id = some source →
    source.maker = .lent handles → source.handlesAllocated = true → source.handles = handles
  borrowed : ∀ id source handles, process.sources id = some source →
    source.maker = .lent handles → handles.1 ≠ -1 → ∃ file, base handles.1 = some file
  apart : ∀ first second one two, process.sources first = some one →
    process.sources second = some two → one.Clash two → first = second

structure Registered (base : Int → Option File) (exclusive : Prop) (enrolled : Id → Id → Prop)
    (process : Process Id) : Prop where
  live : Live enrolled process
  lent : exclusive → Lent base process
  complete : exclusive → Complete enrolled process

omit [DecidableEq Id] in
theorem Registered.congr {base : Int → Option File} {exclusive : Prop}
    {enrolled other : Id → Id → Prop} (registered : Registered base exclusive enrolled process)
    (same : ∀ waitSet id, other waitSet id ↔ enrolled waitSet id) :
    Registered base exclusive other process := by
  refine ⟨?_, registered.lent, ?_⟩
  · intro waitSet set number id present entry
    rw [same]
    exact registered.live waitSet set number id present entry
  · intro only waitSet id
    rw [same]
    exact registered.complete only waitSet id

/-! ### Read handles -/

omit [DecidableEq Id] in
/-- A read handle is the source's own descriptor or one that it has been lent. -/
theorem Lent.reads {base : Int → Option File} (lent : Lent base process)
    (accounts : Accounts base process) {id : Id} {source : Source Id}
    (found : process.sources id = some source) (ready : source.handlesAllocated = true)
    (handle : source.handles.1 ≠ -1) :
    ∃ file, process.table.find source.handles.1 = some file ∧
      ((source.handles.1, file) ∈ source.owned ∨
        (file.serial = none ∧ source.maker = .lent source.handles)) := by
  have own : ∀ file, (source.handles.1, file) ∈ source.owned →
      ∃ file, process.table.find source.handles.1 = some file ∧
        ((source.handles.1, file) ∈ source.owned ∨
          (file.serial = none ∧ source.maker = .lent source.handles)) := by
    intro file owned
    exact ⟨file, accounts.accounted.found (Or.inl ⟨id, source, found, owned⟩), Or.inl owned⟩
  cases made : source.maker with
  | AsTrivial =>
      rw [made] at own
      apply own (.pipe source.serial false)
      simp [Source.owned, ready, made]
  | AsTimer =>
      rw [made] at own
      apply own (.timer source.serial)
      simp [Source.owned, ready, made]
  | lent handles =>
      have given := lent.given id source handles found made ready
      rw [given] at handle
      obtain ⟨file, here⟩ := lent.borrowed id source handles found made handle
      have serial := lent.foreign handles.1 file here
      have unlisted : (handles.1, file) ∉ process.opened := by
        intro listed
        obtain ⟨number, _, named⟩ := accounts.serials handles.1 file listed
        rw [serial] at named
        contradiction
      rw [given]
      exact ⟨file, (accounts.accounted.foreign handles.1 file unlisted).mpr here,
        Or.inr ⟨serial, rfl⟩⟩
  | nothing => exact absurd (congrArg Prod.fst (lent.idle id source found made)) handle

omit [DecidableEq Id] in
theorem Lent.open_handle {base : Int → Option File} (lent : Lent base process)
    (accounts : Accounts base process) {id : Id} {source : Source Id}
    (found : process.sources id = some source) (ready : source.handlesAllocated = true)
    (handle : source.handles.1 ≠ -1) : source.handles.1 ∈ process.table.numbers := by
  obtain ⟨file, here, _⟩ := lent.reads accounts found ready handle
  rw [process.table.tracks, here]
  rfl

omit [DecidableEq Id] in
theorem Lent.reader_owns {base : Int → Option File} (lent : Lent base process)
    (accounts : Accounts base process) {id : Id} {source : Source Id}
    (found : process.sources id = some source) (ready : source.handlesAllocated = true)
    (handle : source.handles.1 ≠ -1) {file : File}
    (owns : process.Owns source.handles.1 file) : (source.handles.1, file) ∈ source.owned := by
  obtain ⟨read, here, owned | ⟨foreign, _⟩⟩ := lent.reads accounts found ready handle
  · rw [accounts.accounted.found owns] at here
    cases here
    exact owned
  · rw [accounts.accounted.found owns] at here
    cases here
    obtain ⟨_, _, serial⟩ := accounts.serials _ _ ((accounts.accounted.owned _ _).mp owns).1
    rw [foreign] at serial
    contradiction

omit [DecidableEq Id] in
theorem Lent.sole {base : Int → Option File} (lent : Lent base process)
    (accounts : Accounts base process) {first second : Id} {one two : Source Id}
    (here : process.sources first = some one) (there : process.sources second = some two)
    (ready : one.handlesAllocated = true) (also : two.handlesAllocated = true)
    (handle : one.handles.1 ≠ -1) (same : one.handles.1 = two.handles.1) : first = second := by
  have other : two.handles.1 ≠ -1 := by
    rw [← same]
    exact handle
  obtain ⟨file, read, owned | ⟨foreign, lends⟩⟩ := lent.reads accounts here ready handle
  · have owns : process.Owns two.handles.1 file := by
      rw [← same]
      exact Or.inl ⟨first, one, here, owned⟩
    exact accounts.sole here there owned (lent.reader_owns accounts there also other owns)
  · obtain ⟨file', read', owned' | ⟨_, lends'⟩⟩ := lent.reads accounts there also other
    · have owns : process.Owns one.handles.1 file' := by
        rw [same]
        exact Or.inl ⟨second, two, there, owned'⟩
      exact accounts.sole here there (lent.reader_owns accounts here ready handle owns) owned'
    · exact lent.apart first second one two here there ⟨_, _, lends, lends', same, handle⟩

omit [DecidableEq Id] in
theorem Lent.shrink {base : Int → Option File} {after : Process Id} (lent : Lent base process)
    (sources : ∀ id now, after.sources id = some now →
      ∃ old, process.sources id = some old ∧ core old = core now) : Lent base after := by
  constructor
  · exact lent.foreign
  · intro id now found made
    obtain ⟨old, earlier, same⟩ := sources id now found
    obtain ⟨_, maker, handles, _⟩ := core_eq same
    rw [← handles]
    exact lent.idle id old earlier (maker.trans made)
  · intro id now given found made ready
    obtain ⟨old, earlier, same⟩ := sources id now found
    obtain ⟨_, maker, handles, allocated, _⟩ := core_eq same
    rw [← handles]
    exact lent.given id old given earlier (maker.trans made) (allocated.trans ready)
  · intro id now given found made
    obtain ⟨old, earlier, same⟩ := sources id now found
    exact lent.borrowed id old given earlier ((core_eq same).2.1.trans made)
  · intro first second one two found also clash
    obtain ⟨oldOne, earlierOne, sameOne⟩ := sources first one found
    obtain ⟨oldTwo, earlierTwo, sameTwo⟩ := sources second two also
    apply lent.apart first second oldOne oldTwo earlierOne earlierTwo
    rw [Source.Clash, (core_eq sameOne).2.1, (core_eq sameTwo).2.1]
    exact clash

theorem Lent.allocate {base : Int → Option File} {after : Process Id} (lent : Lent base process)
    {id : Id} {source : Source Id} {entries : List (Int × File)}
    (found : process.sources id = some source)
    (allocates : Allocates id source entries process after) : Lent base after := by
  have makers : ∀ other now, after.sources other = some now →
      ∃ old, process.sources other = some old ∧ old.maker = now.maker := by
    rw [allocates.sources]
    apply forall_update
    · intro other now _ present
      exact ⟨now, present, rfl⟩
    · intro now same
      cases same
      exact ⟨source, found, rfl⟩
  constructor
  · exact lent.foreign
  · rw [allocates.sources]
    apply forall_update
    · intro other now _ present
      exact lent.idle other now present
    · intro now same made
      cases same
      have nothing : source.maker = .nothing := made
      simp only [allocated, Source.returned, nothing]
      exact lent.idle id source found nothing
  · rw [allocates.sources]
    intro other now given
    revert other now
    apply forall_update
    · intro other now _ present
      exact lent.given other now given present
    · intro now same made _
      cases same
      have lends : source.maker = .lent given := made
      simp only [allocated, Source.returned, lends]
  · intro other now given present made
    obtain ⟨old, earlier, same⟩ := makers other now present
    exact lent.borrowed other old given earlier (same.trans made)
  · intro first second one two found also clash
    obtain ⟨oldOne, earlierOne, sameOne⟩ := makers first one found
    obtain ⟨oldTwo, earlierTwo, sameTwo⟩ := makers second two also
    apply lent.apart first second oldOne oldTwo earlierOne earlierTwo
    rw [Source.Clash, sameOne, sameTwo]
    exact clash

/-- The read handle of a new source is not lent to another, and it is open. -/
def Exclusive (base : Int → Option File) (process : Process Id) (maker : Maker) : Prop :=
  ∀ handles, maker = .lent handles → handles.1 ≠ -1 →
    (∃ file, base handles.1 = some file) ∧
      ∀ id source others, process.sources id = some source → source.maker = .lent others →
        others.1 ≠ handles.1

theorem Lent.make {base : Int → Option File} (lent : Lent base process) {id : Id} {maker : Maker}
    (exclusive : Exclusive base process maker) : Lent base (process.make id maker) := by
  have sources : (process.make id maker).sources =
      Function.update process.sources id (some (.fresh process.nextSerial maker)) := rfl
  constructor
  · exact lent.foreign
  · rw [sources]
    apply forall_update
    · intro other now _ present
      exact lent.idle other now present
    · intro now same _
      cases same
      rfl
  · rw [sources]
    intro other now given
    revert other now
    apply forall_update
    · intro other now _ present
      exact lent.given other now given present
    · intro now same _ ready
      cases same
      contradiction
  · rw [sources]
    intro other now given
    revert other now
    apply forall_update
    · intro other now _ present
      exact lent.borrowed other now given present
    · intro now same made handle
      cases same
      exact (exclusive given made handle).1
  · rw [sources]
    apply apart_update Source.Clash.symm lent.apart
    intro new same other old present clash
    cases same
    obtain ⟨there, here, making, made, equal, handle⟩ := clash
    rw [equal] at handle
    exact (exclusive here made handle).2 other old there present making equal

/-! ### Registrations that stay -/

theorem Registered.setReferences {base : Int → Option File} {exclusive : Prop}
    {enrolled : Id → Id → Prop} (registered : Registered base exclusive enrolled process)
    {id : Id} {source : Source Id} (found : process.sources id = some source)
    (references : List (Holder Id)) :
    Registered base exclusive enrolled
      (process.setSource id { source with references := references }) := by
  have counted : ∀ other old, process.sources other = some old →
      ∃ now, (process.setSource id { source with references := references }).sources other =
        some now ∧ core now = core old := by
    intro other old present
    have same := @setSource_core Id _ process id source { source with references := references }
      found rfl other
    rw [present] at same
    exact Option.map_eq_some_iff.mp same
  constructor
  · intro waitSet set number other present entry
    obtain ⟨opened, joined, owner, alive, ready, named⟩ :=
      registered.live waitSet set number other present entry
    obtain ⟨now, here, same⟩ := counted other owner alive
    obtain ⟨_, _, handles, allocated, _⟩ := core_eq same
    exact ⟨opened, joined, now, here, allocated.trans ready, by rw [handles]; exact named⟩
  · intro only
    apply (registered.lent only).shrink
    intro other now present
    have same := @setSource_core Id _ process id source { source with references := references }
      found rfl other
    rw [present] at same
    exact Option.map_eq_some_iff.mp same.symm
  · intro only waitSet other joined
    obtain ⟨set, owner, present, alive, ready, entry⟩ :=
      registered.complete only waitSet other joined
    obtain ⟨now, here, same⟩ := counted other owner alive
    obtain ⟨_, _, handles, allocated, _⟩ := core_eq same
    refine ⟨set, now, present, here, allocated.trans ready, ?_⟩
    rw [handles]
    exact entry

omit [DecidableEq Id] in
theorem forgetAll_interest {numbers : List Int} {set : WaitSet Id} {number : Int} {id : Id} :
    (numbers.foldl WaitSet.forget set).interest number = some id ↔
      number ∉ numbers ∧ set.interest number = some id := by
  induction numbers generalizing set with
  | nil => simp
  | cons first numbers ih =>
      rw [List.foldl_cons, ih, WaitSet.forget_interest, List.mem_cons]
      by_cases same : number = first
      · simp [same]
      · simp [same]

omit [DecidableEq Id] in
theorem Registered.gives {base : Int → Option File} {exclusive : Prop}
    {enrolled : Id → Id → Prop} {before after : Process Id}
    (registered : Registered base exclusive enrolled before) {numbers : List Int}
    (gives : Gives numbers before after)
    (unread : exclusive → ∀ waitSet id source, enrolled waitSet id →
      before.sources id = some source → source.handlesAllocated = true →
      source.handles.1 ≠ -1 → source.handles.1 ∉ numbers) :
    Registered base exclusive enrolled after := by
  constructor
  · intro waitSet set number id present entry
    rw [gives.waitSets] at present
    obtain ⟨old, earlier, forgot⟩ := Option.map_eq_some_iff.mp present
    rw [← forgot, forgetAll_interest] at entry
    obtain ⟨opened, joined, source⟩ := registered.live waitSet old number id earlier entry.2
    refine ⟨(gives.numbers number).mpr ⟨opened, entry.1⟩, joined, ?_⟩
    rw [gives.sources]
    exact source
  · intro only
    apply (registered.lent only).shrink
    intro id now present
    rw [gives.sources] at present
    exact ⟨now, present, rfl⟩
  · intro only waitSet id joined
    obtain ⟨set, source, present, found, ready, entry⟩ :=
      registered.complete only waitSet id joined
    refine ⟨numbers.foldl WaitSet.forget set, source, ?_, ?_, ready, ?_⟩
    · rw [gives.waitSets, present, Option.map_some]
    · rw [gives.sources]
      exact found
    · intro handle
      rw [forgetAll_interest]
      exact ⟨unread only waitSet id source joined found ready handle, entry handle⟩

theorem Registered.without {base : Int → Option File} {exclusive : Prop}
    {enrolled : Id → Id → Prop} (registered : Registered base exclusive enrolled process)
    {id : Id} (alone : ∀ waitSet, ¬ enrolled waitSet id) :
    Registered base exclusive enrolled
      { process with sources := Function.update process.sources id none } := by
  have still : ∀ waitSet other source, enrolled waitSet other →
      process.sources other = some source →
      Function.update process.sources id none other = some source := by
    intro waitSet other source joined alive
    have different : other ≠ id := by
      intro same
      rw [same] at joined
      exact alone waitSet joined
    rw [Function.update_of_ne different]
    exact alive
  constructor
  · intro waitSet set number other present entry
    obtain ⟨opened, joined, source, alive, rest⟩ :=
      registered.live waitSet set number other present entry
    exact ⟨opened, joined, source, still waitSet other source joined alive, rest⟩
  · intro only
    apply (registered.lent only).shrink
    exact forall_update (fun other now _ present => ⟨now, present, rfl⟩) nofun
  · intro only waitSet other joined
    obtain ⟨set, source, present, alive, rest⟩ := registered.complete only waitSet other joined
    exact ⟨set, source, present, still waitSet other source joined alive, rest⟩

theorem Registered.destroySource {base : Int → Option File} {exclusive : Prop}
    {enrolled : Id → Id → Prop} (registered : Registered base exclusive enrolled process)
    (accounts : Accounts base process) {id : Id} {source : Source Id}
    (found : process.sources id = some source) (alone : ∀ waitSet, ¬ enrolled waitSet id) :
    Registered base exclusive enrolled (process.destroySource id source) := by
  apply (registered.without alone).gives (accounts.destroySource found).1
  intro only waitSet other reader joined present ready handle read
  have different : other ≠ id := by
    intro same
    rw [same] at joined
    exact alone waitSet joined
  have alive : process.sources other = some reader :=
    (Function.update_of_ne different ..).symm.trans present
  obtain ⟨⟨number, file⟩, owned, same⟩ := List.mem_map.mp read
  simp only at same
  rw [same] at owned
  have owns := (registered.lent only).reader_owns accounts alive ready handle
    (Or.inl ⟨id, source, found, owned⟩)
  exact different (accounts.sole alive found owns owned)

theorem Registered.allocate {base : Int → Option File} {exclusive : Prop}
    {enrolled : Id → Id → Prop} {after : Process Id}
    (registered : Registered base exclusive enrolled process) {id : Id} {source : Source Id}
    {entries : List (Int × File)} (found : process.sources id = some source)
    (unready : source.handlesAllocated = false)
    (allocates : Allocates id source entries process after) :
    Registered base exclusive enrolled after := by
  have still : ∀ other owner, process.sources other = some owner →
      owner.handlesAllocated = true → after.sources other = some owner := by
    intro other owner alive ready
    have different : other ≠ id := by
      intro same
      rw [same, found] at alive
      cases alive
      rw [unready] at ready
      contradiction
    rw [allocates.sources, Function.update_of_ne different]
    exact alive
  constructor
  · intro waitSet set number other present entry
    rw [allocates.waitSets] at present
    obtain ⟨opened, joined, owner, alive, ready, named⟩ :=
      registered.live waitSet set number other present entry
    exact ⟨(allocates.numbers number).mpr (Or.inl opened), joined, owner,
      still other owner alive ready, ready, named⟩
  · exact fun only => (registered.lent only).allocate found allocates
  · intro only waitSet other joined
    obtain ⟨set, owner, present, alive, ready, entry⟩ :=
      registered.complete only waitSet other joined
    refine ⟨set, owner, ?_, still other owner alive ready, ready, entry⟩
    rw [allocates.waitSets]
    exact present

/-! ### Registrations that come and go -/

/-- The kernel's registrations of a wait set after a call for a source that has handles. -/
def controlled (process : Process Id) (set : WaitSet Id) (shouldAdd : Bool) (source : Source Id)
    (id : Id) : WaitSet Id :=
  { set with
    interest := (Epoll.control
      { openNumbers := process.table.numbers
        interest := set.interest } shouldAdd source.handles.1 id).interest }

/-- Registrations change in one wait set only, which has entries for what is enrolled then. -/
theorem Registered.setInterest {base : Int → Option File} {exclusive : Prop}
    {enrolled other : Id → Id → Prop} (registered : Registered base exclusive enrolled process)
    {waitSet : Id} {new : WaitSet Id}
    (elsewhere : ∀ name id, name ≠ waitSet → (other name id ↔ enrolled name id))
    (live : ∀ number id, new.interest number = some id →
      number ∈ process.table.numbers ∧ other waitSet id ∧
        ∃ source, process.sources id = some source ∧ source.handlesAllocated = true ∧
          source.handles.1 = number)
    (complete : exclusive → ∀ id, other waitSet id →
      ∃ source, process.sources id = some source ∧ source.handlesAllocated = true ∧
        (source.handles.1 ≠ -1 → new.interest source.handles.1 = some id)) :
    Registered base exclusive other (process.setWaitSet waitSet new) := by
  constructor
  · intro name found number id later entry
    by_cases here : name = waitSet
    · rw [here, setWaitSet_waitSets, Function.update_self] at later
      cases later
      rw [here]
      exact live number id entry
    · rw [setWaitSet_waitSets, Function.update_of_ne here] at later
      rw [elsewhere name id here]
      exact registered.live name found number id later entry
  · intro only
    exact (registered.lent only).shrink fun id now found => ⟨now, found, rfl⟩
  · intro only name id joined
    by_cases here : name = waitSet
    · rw [here] at joined
      obtain ⟨source, rest⟩ := complete only id joined
      refine ⟨new, source, ?_, rest⟩
      rw [here, setWaitSet_waitSets, Function.update_self]
    · obtain ⟨found, source, later, rest⟩ :=
        registered.complete only name id ((elsewhere name id here).mp joined)
      refine ⟨found, source, ?_, rest⟩
      rw [setWaitSet_waitSets, Function.update_of_ne here]
      exact later

omit [DecidableEq Id] in
/-- Of the sources that a wait set has enrolled, no other reads the handle of this one. -/
theorem Registered.other_handle {base : Int → Option File} {exclusive : Prop}
    {enrolled : Id → Id → Prop} (registered : Registered base exclusive enrolled process)
    (accounts : Accounts base process) (only : exclusive) {id one : Id}
    {source reader : Source Id} (found : process.sources id = some source)
    (ready : source.handlesAllocated = true) (alive : process.sources one = some reader)
    (reads : reader.handlesAllocated = true) (handle : reader.handles.1 ≠ -1)
    (different : one ≠ id) : reader.handles.1 ≠ source.handles.1 :=
  fun same => different ((registered.lent only).sole accounts alive found reads ready handle same)

theorem Registered.add {base : Int → Option File} {exclusive : Prop}
    {enrolled other : Id → Id → Prop} (registered : Registered base exclusive enrolled process)
    (accounts : Accounts base process) {waitSet id : Id} {source : Source Id} {set : WaitSet Id}
    (found : process.sources id = some source) (ready : source.handlesAllocated = true)
    (present : process.waitSets waitSet = some set)
    (more : ∀ name one, other name one ↔ enrolled name one ∨ (name = waitSet ∧ one = id))
    (fresh : ¬ enrolled waitSet id) :
    Registered base exclusive other
      (process.setWaitSet waitSet (controlled process set true source id)) := by
  have kernel := Epoll.control_add_cases { openNumbers := process.table.numbers
                                           interest := set.interest } source.handles.1 id
  apply registered.setInterest
  · intro name one elsewhere
    rw [more]
    exact or_iff_left fun both => elsewhere both.1
  · intro number one entry
    rw [more]
    have old : set.interest number = some one → number ∈ process.table.numbers ∧
        (enrolled waitSet one ∨ (waitSet = waitSet ∧ one = id)) ∧
        ∃ source, process.sources one = some source ∧ source.handlesAllocated = true ∧
          source.handles.1 = number := by
      intro before
      obtain ⟨opened, joined, owner⟩ := registered.live waitSet set number one present before
      exact ⟨opened, Or.inl joined, owner⟩
    rcases kernel with same | ⟨opened, changed⟩
    · rw [controlled, same] at entry
      exact old entry
    · simp only [controlled, changed] at entry
      by_cases here : number = source.handles.1
      · rw [here, Function.update_self] at entry
        cases entry
        rw [here]
        exact ⟨opened, Or.inr ⟨rfl, rfl⟩, source, found, ready, rfl⟩
      · rw [Function.update_of_ne here] at entry
        exact old entry
  · intro only one joined
    by_cases this : one = id
    · rw [this]
      refine ⟨source, found, ready, ?_⟩
      intro handle
      have opened := (registered.lent only).open_handle accounts found ready handle
      have free : set.interest source.handles.1 = none := by
        cases taken : set.interest source.handles.1 with
        | none => rfl
        | some holder =>
            obtain ⟨_, earlier, reader, alive, reads, same⟩ :=
              registered.live waitSet set _ holder present taken
            have itself := (registered.lent only).sole accounts found alive ready reads handle
              same.symm
            rw [← itself] at earlier
            exact absurd earlier fresh
      rw [controlled, Epoll.control_add opened free]
      exact Function.update_self ..
    · have before := ((more waitSet one).mp joined).resolve_right fun both => this both.2
      obtain ⟨old, reader, earlier, alive, reads, entry⟩ :=
        registered.complete only waitSet one before
      rw [present] at earlier
      cases earlier
      refine ⟨reader, alive, reads, ?_⟩
      intro handle
      rcases kernel with same | ⟨_, changed⟩
      · rw [controlled, same]
        exact entry handle
      · simp only [controlled, changed]
        rw [Function.update_of_ne
          (registered.other_handle accounts only found ready alive reads handle this)]
        exact entry handle

theorem Registered.delete {base : Int → Option File} {exclusive : Prop}
    {enrolled other : Id → Id → Prop} (registered : Registered base exclusive enrolled process)
    (accounts : Accounts base process) {waitSet id : Id} {source : Source Id} {set : WaitSet Id}
    (found : process.sources id = some source) (ready : source.handlesAllocated = true)
    (present : process.waitSets waitSet = some set)
    (fewer : ∀ name one, other name one ↔ enrolled name one ∧ ¬ (name = waitSet ∧ one = id)) :
    Registered base exclusive other
      (process.setWaitSet waitSet (controlled process set false source id)) := by
  have kernel := Epoll.control_delete_cases { openNumbers := process.table.numbers
                                              interest := set.interest } source.handles.1 id
  apply registered.setInterest
  · intro name one elsewhere
    rw [fewer]
    exact and_iff_left fun both => elsewhere both.1
  · intro number one entry
    have old : set.interest number = some one ∧
        (number ∉ process.table.numbers ∨ number ≠ source.handles.1) := by
      rcases kernel with ⟨closed, same⟩ | ⟨_, changed⟩
      · rw [controlled, same] at entry
        refine ⟨entry, ?_⟩
        by_cases here : number = source.handles.1
        · exact Or.inl (here ▸ closed)
        · exact Or.inr here
      · simp only [controlled, changed] at entry
        by_cases here : number = source.handles.1
        · rw [here, Function.update_self] at entry
          contradiction
        · rw [Function.update_of_ne here] at entry
          exact ⟨entry, Or.inr here⟩
    obtain ⟨opened, joined, reader, alive, reads, named⟩ :=
      registered.live waitSet set number one present old.1
    refine ⟨opened, (fewer waitSet one).mpr ⟨joined, ?_⟩, reader, alive, reads, named⟩
    intro both
    rw [both.2, found] at alive
    cases alive
    rcases old.2 with closed | different
    · exact closed opened
    · exact different named.symm
  · intro only one joined
    obtain ⟨before, others⟩ := (fewer waitSet one).mp joined
    obtain ⟨old, reader, earlier, alive, reads, entry⟩ :=
      registered.complete only waitSet one before
    rw [present] at earlier
    cases earlier
    refine ⟨reader, alive, reads, ?_⟩
    intro handle
    have different : one ≠ id := fun same => others ⟨rfl, same⟩
    rcases kernel with ⟨_, same⟩ | ⟨_, changed⟩
    · rw [controlled, same]
      exact entry handle
    · simp only [controlled, changed]
      rw [Function.update_of_ne
        (registered.other_handle accounts only found ready alive reads handle different)]
      exact entry handle

/-! ### Objects that come and go -/

theorem Registered.make {base : Int → Option File} {exclusive : Prop}
    {enrolled : Id → Id → Prop} (registered : Registered base exclusive enrolled process) {id : Id}
    {maker : Maker} (strange : ∀ waitSet, ¬ enrolled waitSet id)
    (careful : exclusive → Exclusive base process maker) :
    Registered base exclusive enrolled (process.make id maker) := by
  have still : ∀ waitSet other source, enrolled waitSet other →
      process.sources other = some source →
      (process.make id maker).sources other = some source := by
    intro waitSet other source joined alive
    have different : other ≠ id := by
      intro same
      rw [same] at joined
      exact strange waitSet joined
    exact (Function.update_of_ne different ..).trans alive
  constructor
  · intro waitSet set number other present entry
    obtain ⟨opened, joined, source, alive, rest⟩ :=
      registered.live waitSet set number other present entry
    exact ⟨opened, joined, source, still waitSet other source joined alive, rest⟩
  · exact fun only => (registered.lent only).make (careful only)
  · intro only waitSet other joined
    obtain ⟨set, source, present, alive, rest⟩ := registered.complete only waitSet other joined
    exact ⟨set, source, present, still waitSet other source joined alive, rest⟩

theorem Registered.createWaitSet {base : Int → Option File} {exclusive : Prop}
    {enrolled : Id → Id → Prop} (registered : Registered base exclusive enrolled process) {id : Id}
    (absent : process.waitSets id = none) :
    Registered base exclusive enrolled (process.createWaitSet id) := by
  have takes := openFile_takes process (.epoll process.nextSerial)
  have others : ∀ name, name ≠ id →
      (process.createWaitSet id).waitSets name = process.waitSets name :=
    fun name different => Function.update_of_ne different ..
  constructor
  · intro name set number one present entry
    have different : name ≠ id := by
      intro same
      have empty : (process.createWaitSet id).waitSets id = some
          { serial := process.nextSerial
            handle := process.table.next
            sources := []
            interest := fun _ => none } := Function.update_self ..
      rw [same, empty] at present
      cases present
      contradiction
    rw [others name different] at present
    obtain ⟨opened, rest⟩ := registered.live name set number one present entry
    exact ⟨(takes.numbers number).mpr (Or.inl opened), rest⟩
  · intro only
    exact (registered.lent only).shrink fun other now found => ⟨now, found, rfl⟩
  · intro only name one joined
    obtain ⟨set, source, present, rest⟩ := registered.complete only name one joined
    refine ⟨set, source, ?_, rest⟩
    rw [others name]
    · exact present
    · intro same
      rw [same, absent] at present
      contradiction

theorem Registered.closeWaitSet {base : Int → Option File} {exclusive : Prop}
    {enrolled : Id → Id → Prop} (registered : Registered base exclusive enrolled process)
    (accounts : Accounts base process) {waitSet : Id} {set : WaitSet Id}
    (present : process.waitSets waitSet = some set) :
    Registered base exclusive (fun name id => enrolled name id ∧ name ≠ waitSet)
      (process.closeWaitSet waitSet set) := by
  have own : process.Owns set.handle (.epoll set.serial) :=
    Or.inr ⟨waitSet, set, present, List.mem_singleton_self _⟩
  have given : Registered base exclusive enrolled (process.closeHandle set.handle) := by
    apply registered.gives (accounts.closeWaitSet present).1
    intro only name id source joined found ready handle read
    have same : source.handles.1 = set.handle := List.mem_singleton.mp read
    rw [← same] at own
    have owned := (registered.lent only).reader_owns accounts found ready handle own
    exact (Source.serial_files (Source.owned_files owned)).2 set.serial rfl
  have others : ∀ name, name ≠ waitSet → (process.closeWaitSet waitSet set).waitSets name =
      (process.closeHandle set.handle).waitSets name :=
    fun name different => Function.update_of_ne different ..
  constructor
  · intro name old number id later entry
    have different : name ≠ waitSet := by
      intro same
      rw [same] at later
      have gone : (process.closeWaitSet waitSet set).waitSets waitSet = none :=
        Function.update_self ..
      rw [gone] at later
      contradiction
    rw [others name different] at later
    obtain ⟨opened, joined, owner⟩ := given.live name old number id later entry
    exact ⟨opened, ⟨joined, different⟩, owner⟩
  · intro only
    exact (given.lent only).shrink fun id now found => ⟨now, found, rfl⟩
  · intro only name id joined
    obtain ⟨old, source, earlier, rest⟩ := given.complete only name id joined.1
    refine ⟨old, source, ?_, rest⟩
    rw [others name joined.2]
    exact earlier

end Process

end CoreLib.SourceLifetime
