/-
References to sources.

A wait set holds a reference to each of its members and to nothing else, and a live source
has holders.  References are dropped one at a time, the last one with the source.
-/

import CoreLib.SourceLifetimeAccounts

set_option autoImplicit false

namespace CoreLib.SourceLifetime

open Foundation

variable {Id : Type} [DecidableEq Id]

namespace Process

variable {process : Process Id}

def Member (process : Process Id) (waitSet id : Id) : Prop :=
  ∃ set, process.waitSets waitSet = some set ∧ id ∈ set.sources

/-- A live source has references, and those of wait sets are to their members. -/
structure References (member : Id → Id → Prop) (process : Process Id) : Prop where
  held : ∀ id source, process.sources id = some source → source.references ≠ []
  once : ∀ id source, process.sources id = some source →
    ∀ waitSet, source.references.count (.waitSet waitSet) ≤ 1
  listed : ∀ id source, process.sources id = some source →
    ∀ waitSet, .waitSet waitSet ∈ source.references ↔ member waitSet id
  alive : ∀ waitSet id, member waitSet id → ∃ source, process.sources id = some source

theorem References.congr {member other : Id → Id → Prop} (references : References member process)
    (same : ∀ waitSet id, other waitSet id ↔ member waitSet id) : References other process := by
  constructor
  · exact references.held
  · exact references.once
  · intro id source found waitSet
    rw [same]
    exact references.listed id source found waitSet
  · intro waitSet id joined
    exact references.alive waitSet id ((same waitSet id).mp joined)

/-! ### What the calls leave alone -/

def shape (set : WaitSet Id) : (Nat × Int) × List Id := (setCore set, set.sources)

def SameSets (before after : Process Id) : Prop :=
  ∀ waitSet, (after.waitSets waitSet).map shape = (before.waitSets waitSet).map shape

omit [DecidableEq Id] in
theorem SameSets.refl (process : Process Id) : SameSets process process := fun _ => rfl

omit [DecidableEq Id] in
theorem SameSets.trans {before middle after : Process Id} (early : SameSets before middle)
    (late : SameSets middle after) : SameSets before after :=
  fun waitSet => (late waitSet).trans (early waitSet)

omit [DecidableEq Id] in
theorem SameSets.back {after : Process Id} (same : SameSets process after) {waitSet : Id}
    {set : WaitSet Id} (present : after.waitSets waitSet = some set) :
    ∃ old, process.waitSets waitSet = some old ∧ old.handle = set.handle ∧
      old.sources = set.sources := by
  have equal := same waitSet
  rw [present] at equal
  obtain ⟨old, earlier, shapes⟩ := Option.map_eq_some_iff.mp equal.symm
  simp only [shape, setCore, Prod.mk.injEq] at shapes
  exact ⟨old, earlier, shapes.1.2, shapes.2⟩

omit [DecidableEq Id] in
theorem SameSets.symm {after : Process Id} (same : SameSets process after) :
    SameSets after process := fun waitSet => (same waitSet).symm

omit [DecidableEq Id] in
theorem SameSets.member {after : Process Id} (same : SameSets process after) (waitSet id : Id) :
    after.Member waitSet id ↔ process.Member waitSet id := by
  constructor
  · intro member
    obtain ⟨set, present, joined⟩ := member
    obtain ⟨old, earlier, _, sources⟩ := same.back present
    exact ⟨old, earlier, sources ▸ joined⟩
  · intro member
    obtain ⟨set, present, joined⟩ := member
    obtain ⟨new, later, _, sources⟩ := same.symm.back present
    exact ⟨new, later, sources ▸ joined⟩

omit [DecidableEq Id] in
theorem SameSets.distinct {after : Process Id} (same : SameSets process after)
    (distinct : ∀ waitSet set, process.waitSets waitSet = some set → set.sources.Nodup) :
    ∀ waitSet set, after.waitSets waitSet = some set → set.sources.Nodup := by
  intro waitSet set present
  obtain ⟨old, earlier, _, sources⟩ := same.back present
  rw [← sources]
  exact distinct waitSet old earlier

omit [DecidableEq Id] in
theorem SameSets.setCore {after : Process Id} (same : SameSets process after) (waitSet : Id) :
    (after.waitSets waitSet).map setCore = (process.waitSets waitSet).map setCore := by
  have cores := congrArg (Option.map Prod.fst) (same waitSet)
  rw [Option.map_map, Option.map_map] at cores
  exact cores

omit [DecidableEq Id] in
theorem Gives.sameSets {numbers : List Int} {before after : Process Id}
    (gives : Gives numbers before after) : SameSets before after := by
  intro waitSet
  rw [gives.waitSets, Option.map_map]
  congr 1
  funext set
  obtain ⟨core, sources⟩ := forgetAll_keeps numbers set
  simp only [Function.comp_apply, shape, core, sources]

theorem setWaitSet_sameSets {waitSet : Id} {set new : WaitSet Id}
    (present : process.waitSets waitSet = some set) (same : shape new = shape set) :
    SameSets process (process.setWaitSet waitSet new) := by
  intro other
  by_cases here : other = waitSet
  · rw [here, present, setWaitSet_waitSets, Function.update_self, Option.map_some,
      Option.map_some, same]
  · rw [setWaitSet_waitSets, Function.update_of_ne here]

/-- The same object, with the handles that it had if it had them. -/
structure Became (old now : Source Id) : Prop where
  serial : now.serial = old.serial
  handles : old.handlesAllocated = true → now.handlesAllocated = true ∧ now.handles = old.handles

omit [DecidableEq Id] in
theorem Became.refl (source : Source Id) : Became source source :=
  ⟨rfl, fun ready => ⟨ready, rfl⟩⟩

omit [DecidableEq Id] in
theorem Became.trans {first second third : Source Id} (early : Became first second)
    (late : Became second third) : Became first third := by
  refine ⟨late.serial.trans early.serial, ?_⟩
  intro ready
  obtain ⟨still, same⟩ := early.handles ready
  obtain ⟨last, equal⟩ := late.handles still
  exact ⟨last, equal.trans same⟩

/-- Sources only go, or change in what they may. -/
def Persist (before after : Process Id) : Prop :=
  ∀ id now, after.sources id = some now → ∃ old, before.sources id = some old ∧ Became old now

omit [DecidableEq Id] in
theorem Persist.refl (process : Process Id) : Persist process process :=
  fun _ now found => ⟨now, found, .refl now⟩

omit [DecidableEq Id] in
theorem Persist.trans {before middle after : Process Id} (early : Persist before middle)
    (late : Persist middle after) : Persist before after := by
  intro id now found
  obtain ⟨between, here, later⟩ := late id now found
  obtain ⟨old, earlier, first⟩ := early id between here
  exact ⟨old, earlier, first.trans later⟩

omit [DecidableEq Id] in
theorem Persist.of_sources {after : Process Id} (same : after.sources = process.sources) :
    Persist process after := by
  intro id now found
  rw [same] at found
  exact ⟨now, found, .refl now⟩

theorem Persist.replace {after : Process Id} {id : Id} {source : Source Id}
    {replacement : Option (Source Id)} (found : process.sources id = some source)
    (sources : after.sources = Function.update process.sources id replacement)
    (became : ∀ new, replacement = some new → Became source new) : Persist process after := by
  intro other now
  rw [sources]
  revert other now
  apply forall_update
  · intro other now _ present
    exact ⟨now, present, .refl now⟩
  · intro now equal
    exact ⟨source, found, became now equal⟩

structure Keeps (before after : Process Id) : Prop where
  sets : SameSets before after
  sources : Persist before after

omit [DecidableEq Id] in
theorem Keeps.refl (process : Process Id) : Keeps process process := ⟨.refl process, .refl process⟩

omit [DecidableEq Id] in
theorem Keeps.trans {before middle after : Process Id} (early : Keeps before middle)
    (late : Keeps middle after) : Keeps before after :=
  ⟨early.sets.trans late.sets, early.sources.trans late.sources⟩

theorem References.frame {member : Id → Id → Prop} {after : Process Id}
    (references : References member process)
    (same : ∀ id, (after.sources id).map Source.references =
      (process.sources id).map Source.references) : References member after := by
  have back : ∀ id now, after.sources id = some now →
      ∃ old, process.sources id = some old ∧ old.references = now.references := by
    intro id now found
    have equal := same id
    rw [found] at equal
    exact Option.map_eq_some_iff.mp equal.symm
  constructor
  · intro id now found
    obtain ⟨old, earlier, equal⟩ := back id now found
    rw [← equal]
    exact references.held id old earlier
  · intro id now found
    obtain ⟨old, earlier, equal⟩ := back id now found
    rw [← equal]
    exact references.once id old earlier
  · intro id now found
    obtain ⟨old, earlier, equal⟩ := back id now found
    rw [← equal]
    exact references.listed id old earlier
  · intro waitSet id joined
    obtain ⟨old, earlier⟩ := references.alive waitSet id joined
    have equal := same id
    rw [earlier] at equal
    obtain ⟨now, found, _⟩ := Option.map_eq_some_iff.mp equal
    exact ⟨now, found⟩

/-! ### References that come and go -/

/-- The last shared_ptr takes the source along, and another is only counted. -/
theorem dropReference_cases {id : Id} {source : Source Id} {holder : Holder Id}
    (found : process.sources id = some source) (held : holder ∈ source.references) :
    (source.references = [holder] ∧
      process.dropReference id holder = process.destroySource id source) ∨
    (source.references.erase holder ≠ [] ∧ process.dropReference id holder =
      process.setSource id { source with references := source.references.erase holder }) := by
  simp only [dropReference, found]
  by_cases last : source.references.erase holder = []
  · rw [if_pos last]
    rcases (List.erase_eq_nil_iff).mp last with none_ | single
    · rw [none_] at held
      contradiction
    · exact Or.inl ⟨single, rfl⟩
  · rw [if_neg last]
    exact Or.inr ⟨last, rfl⟩

theorem setSource_core {id : Id} {source new : Source Id}
    (found : process.sources id = some source) (same : core new = core source) (other : Id) :
    ((process.setSource id new).sources other).map core = (process.sources other).map core := by
  by_cases here : other = id
  · rw [here, found, setSource_sources, Function.update_self, Option.map_some, Option.map_some,
      same]
  · rw [setSource_sources, Function.update_of_ne here]

theorem Accounts.setReferences {base : Int → Option File} (accounts : Accounts base process)
    {id : Id} {source : Source Id} (found : process.sources id = some source)
    (references : List (Holder Id)) :
    Accounts base (process.setSource id { source with references := references }) :=
  accounts.frame rfl rfl rfl rfl rfl (setSource_core found rfl) fun _ => rfl

theorem References.replace {member other : Id → Id → Prop}
    (references : References member process) {id : Id} {new : Source Id} {after : Process Id}
    (sources : after.sources = Function.update process.sources id (some new))
    (others : ∀ waitSet one, one ≠ id → (other waitSet one ↔ member waitSet one))
    (held : new.references ≠ []) (once : ∀ waitSet, new.references.count (.waitSet waitSet) ≤ 1)
    (listed : ∀ waitSet, .waitSet waitSet ∈ new.references ↔ other waitSet id) :
    References other after := by
  constructor
  · rw [sources]
    exact forall_update (fun one object _ => references.held one object)
      fun object same => by cases same; exact held
  · rw [sources]
    exact forall_update (fun one object _ => references.once one object)
      fun object same => by cases same; exact once
  · rw [sources]
    apply forall_update
    · intro one object different present waitSet
      rw [others waitSet one different]
      exact references.listed one object present waitSet
    · intro object same
      cases same
      exact listed
  · intro waitSet one joined
    by_cases same : one = id
    · rw [sources, same, Function.update_self]
      exact ⟨new, rfl⟩
    · rw [sources, Function.update_of_ne same]
      exact references.alive waitSet one ((others waitSet one same).mp joined)

theorem References.releaseLast {member other : Id → Id → Prop}
    (references : References member process) {id : Id} {source : Source Id} {holder : Holder Id}
    {after : Process Id} (found : process.sources id = some source)
    (fewer : ∀ waitSet one, other waitSet one ↔
      member waitSet one ∧ ¬ (one = id ∧ holder = .waitSet waitSet))
    (single : source.references = [holder])
    (sources : after.sources = Function.update process.sources id none) :
    References other after := by
  constructor
  · rw [sources]
    exact forall_update (fun one found _ => references.held one found) nofun
  · rw [sources]
    exact forall_update (fun one found _ => references.once one found) nofun
  · rw [sources]
    apply forall_update
    · intro one object different present waitSet
      rw [fewer, references.listed one object present]
      exact (and_iff_left fun both => different both.1).symm
    · intro object impossible
      contradiction
  · intro waitSet one joined
    obtain ⟨before, kept⟩ := (fewer waitSet one).mp joined
    have different : one ≠ id := by
      intro same
      rw [same] at before kept
      have listed := (references.listed id source found waitSet).mpr before
      rw [single, List.mem_singleton] at listed
      exact kept ⟨rfl, listed.symm⟩
    rw [sources, Function.update_of_ne different]
    exact references.alive waitSet one before

theorem References.releaseOne {member other : Id → Id → Prop}
    (references : References member process) {id : Id} {source : Source Id} {holder : Holder Id}
    {after : Process Id} (found : process.sources id = some source)
    (fewer : ∀ waitSet one, other waitSet one ↔
      member waitSet one ∧ ¬ (one = id ∧ holder = .waitSet waitSet))
    (left : source.references.erase holder ≠ [])
    (sources : after.sources = Function.update process.sources id
      (some { source with references := source.references.erase holder })) :
    References other after := by
  apply references.replace sources
  · intro waitSet one different
    rw [fewer]
    exact and_iff_left fun both => different both.1
  · exact left
  · intro waitSet
    exact (List.Sublist.count_le _ List.erase_sublist).trans
      (references.once id source found waitSet)
  · intro waitSet
    rw [fewer]
    by_cases gone : holder = .waitSet waitSet
    · have none_left : (source.references.erase holder).count (.waitSet waitSet) = 0 := by
        rw [gone, List.count_erase_self]
        have once := references.once id source found waitSet
        omega
      exact iff_of_false (List.count_eq_zero.mp none_left) fun both => both.2 ⟨rfl, gone⟩
    · rw [List.mem_erase_of_ne fun same => gone same.symm, references.listed id source found]
      exact (and_iff_left fun both => gone both.2).symm

/-- One more shared_ptr, of the user or of a wait set that the source joins. -/
theorem References.gain {member other : Id → Id → Prop} (references : References member process)
    {id : Id} {source : Source Id} {holder : Holder Id} {after : Process Id}
    (found : process.sources id = some source)
    (more : ∀ waitSet one, other waitSet one ↔
      member waitSet one ∨ (one = id ∧ holder = .waitSet waitSet))
    (fresh : ∀ waitSet, holder = .waitSet waitSet → ¬ member waitSet id)
    (sources : after.sources = Function.update process.sources id
      (some { source with references := holder :: source.references })) :
    References other after := by
  apply references.replace sources
  · intro waitSet one different
    rw [more]
    exact or_iff_left fun both => different both.1
  · exact List.cons_ne_nil holder source.references
  · intro waitSet
    rw [List.count_cons]
    by_cases joins : holder = .waitSet waitSet
    · have absent : .waitSet waitSet ∉ source.references := by
        rw [references.listed id source found]
        exact fresh waitSet joins
      rw [List.count_eq_zero.mpr absent]
      split <;> omega
    · have once := references.once id source found waitSet
      simpa [joins] using once
  · intro waitSet
    rw [more, List.mem_cons, references.listed id source found, or_comm, eq_comm]
    simp

theorem References.make {member : Id → Id → Prop} (references : References member process)
    {id : Id} (absent : process.sources id = none) (maker : Maker) :
    References member (process.make id maker) := by
  have sources : (process.make id maker).sources =
      Function.update process.sources id (some (.fresh process.nextSerial maker)) := rfl
  apply references.replace sources
  · exact fun _ _ _ => Iff.rfl
  · exact List.cons_ne_nil _ _
  · intro waitSet
    simp [Source.fresh]
  · intro waitSet
    refine iff_of_false (by simp [Source.fresh]) ?_
    intro member
    obtain ⟨source, found⟩ := references.alive waitSet id member
    rw [absent] at found
    contradiction

end Process

end CoreLib.SourceLifetime
