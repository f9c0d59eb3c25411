/-
The invariant of sources and wait sets.

Each call keeps the accounts of the descriptors, the references and the registrations, also
while a destructor runs that has done half of its work.
-/

import CoreLib.SourceLifetimeRegistrations

set_option autoImplicit false

namespace CoreLib.SourceLifetime

open Foundation

variable {Id : Type} [DecidableEq Id]

namespace Process

variable {base : Int → Option File} {exclusive : Prop} {process : Process Id}

/-- Wait sets have references to `member` and registrations of `enrolled`. -/
structure Sound (base : Int → Option File) (exclusive : Prop) (member enrolled : Id → Id → Prop)
    (process : Process Id) : Prop where
  accounts : Accounts base process
  references : References member process
  registered : Registered base exclusive enrolled process
  distinct : ∀ waitSet set, process.waitSets waitSet = some set → set.sources.Nodup

def Invariant (base : Int → Option File) (exclusive : Prop) (process : Process Id) : Prop :=
  Sound base exclusive process.Member process.Member process

theorem Sound.congr {member enrolled other also : Id → Id → Prop}
    (sound : Sound base exclusive member enrolled process)
    (same : ∀ waitSet id, other waitSet id ↔ member waitSet id)
    (alike : ∀ waitSet id, also waitSet id ↔ enrolled waitSet id) :
    Sound base exclusive other also process :=
  ⟨sound.accounts, sound.references.congr same, sound.registered.congr alike, sound.distinct⟩

/-- What a call leaves behind when `members` are the members of the wait sets then. -/
structure Changes (base : Int → Option File) (exclusive : Prop) (process after : Process Id)
    (members : Id → Id → Prop) : Prop where
  invariant : Invariant base exclusive after
  members : ∀ waitSet id, after.Member waitSet id ↔ members waitSet id
  sources : ∀ id old now, process.sources id = some old → after.sources id = some now →
    Became old now

theorem Changes.of_sound {after : Process Id} {members : Id → Id → Prop}
    (sound : Sound base exclusive members members after)
    (same : ∀ waitSet id, after.Member waitSet id ↔ members waitSet id)
    (sources : Persist process after) : Changes base exclusive process after members := by
  refine ⟨sound.congr same same, same, ?_⟩
  intro id old now earlier found
  obtain ⟨before, here, became⟩ := sources id now found
  rw [earlier] at here
  cases here
  exact became

theorem Changes.congr {after : Process Id} {members others : Id → Id → Prop}
    (changes : Changes base exclusive process after members)
    (same : ∀ waitSet id, others waitSet id ↔ members waitSet id) :
    Changes base exclusive process after others := by
  refine ⟨changes.invariant, ?_, changes.sources⟩
  intro waitSet id
  rw [same]
  exact changes.members waitSet id

theorem Changes.of_keeps {after : Process Id}
    (sound : Sound base exclusive process.Member process.Member after)
    (keeps : Keeps process after) : Changes base exclusive process after process.Member :=
  .of_sound sound keeps.sets.member keeps.sources

/-! ### References -/

theorem setReferences_persist {id : Id} {source : Source Id}
    (found : process.sources id = some source) (references : List (Holder Id)) :
    Persist process (process.setSource id { source with references := references }) := by
  apply Persist.replace found rfl
  intro new same
  cases same
  exact ⟨rfl, fun ready => ⟨ready, rfl⟩⟩

/-- A holder drops its shared_ptr to a source that no wait set has enrolled if this was the
last one. -/
theorem Sound.dropReference {member other enrolled : Id → Id → Prop}
    (sound : Sound base exclusive member enrolled process) {id : Id} {source : Source Id}
    {holder : Holder Id} (found : process.sources id = some source)
    (held : holder ∈ source.references)
    (fewer : ∀ waitSet one, other waitSet one ↔
      member waitSet one ∧ ¬ (one = id ∧ holder = .waitSet waitSet))
    (alone : source.references = [holder] → ∀ waitSet, ¬ enrolled waitSet id) :
    Sound base exclusive other enrolled (process.dropReference id holder) ∧
      Keeps process (process.dropReference id holder) := by
  rcases dropReference_cases found held with ⟨single, gone⟩ | ⟨left, kept⟩
  · obtain ⟨gives, accounts⟩ := sound.accounts.destroySource found
    rw [gone]
    have same : SameSets process (process.destroySource id source) := gives.sameSets
    refine ⟨⟨accounts, ?_, ?_, same.distinct sound.distinct⟩, same, ?_⟩
    · exact sound.references.releaseLast found fewer single gives.sources
    · exact sound.registered.destroySource sound.accounts found (alone single)
    · exact .replace found gives.sources nofun
  · rw [kept]
    refine ⟨⟨sound.accounts.setReferences found _, ?_, sound.registered.setReferences found _,
      sound.distinct⟩, SameSets.refl process, setReferences_persist found _⟩
    exact sound.references.releaseOne found fewer left rfl

theorem Sound.addReference {member enrolled other : Id → Id → Prop}
    (sound : Sound base exclusive member enrolled process) {id : Id} {source : Source Id}
    {holder : Holder Id} (found : process.sources id = some source)
    (more : ∀ waitSet one, other waitSet one ↔
      member waitSet one ∨ (one = id ∧ holder = .waitSet waitSet))
    (fresh : ∀ waitSet, holder = .waitSet waitSet → ¬ member waitSet id) :
    Sound base exclusive other enrolled (process.addReference id holder) ∧
      (process.addReference id holder).waitSets = process.waitSets ∧
      (process.addReference id holder).sources = Function.update process.sources id
        (some { source with references := holder :: source.references }) ∧
      Persist process (process.addReference id holder) := by
  have added : process.addReference id holder =
      process.setSource id { source with references := holder :: source.references } := by
    simp only [Process.addReference, found]
  rw [added]
  refine ⟨⟨sound.accounts.setReferences found _, ?_, sound.registered.setReferences found _,
    sound.distinct⟩, rfl, rfl, setReferences_persist found _⟩
  exact sound.references.gain found more fresh rfl

/-! ### Registrations -/

theorem Sound.handles {member enrolled : Id → Id → Prop}
    (sound : Sound base exclusive member enrolled process) {id : Id} {source : Source Id}
    (found : process.sources id = some source) :
    Sound base exclusive member enrolled (process.handles id) ∧
      Keeps process (process.handles id) ∧
      ∃ now, (process.handles id).sources id = some now ∧ now.handlesAllocated = true := by
  obtain ⟨accounts, same | fresh⟩ := sound.accounts.handles found
  · obtain ⟨ready, same⟩ := same
    rw [same]
    exact ⟨sound, .refl process, source, found, ready⟩
  · obtain ⟨unready, entries, allocates⟩ := fresh
    have sets : SameSets process (process.handles id) := by
      intro waitSet
      rw [allocates.waitSets]
    have persist : Persist process (process.handles id) := by
      apply Persist.replace found allocates.sources
      intro new same
      cases same
      refine ⟨rfl, ?_⟩
      rw [unready]
      exact nofun
    have here : (process.handles id).sources id =
        some (allocated source (entries.map Prod.fst)) := by
      rw [allocates.sources, Function.update_self]
    refine ⟨⟨accounts, sound.references.frame ?_,
      sound.registered.allocate found unready allocates, sets.distinct sound.distinct⟩,
      ⟨sets, persist⟩, allocated source (entries.map Prod.fst), here, rfl⟩
    intro other
    by_cases same : other = id
    · rw [same, here, found]
      rfl
    · rw [allocates.sources, Function.update_of_ne same]

theorem updateInWaitSetHandle_eq {waitSet id : Id} {shouldAdd : Bool} {source : Source Id}
    {set : WaitSet Id} (found : (process.handles id).sources id = some source)
    (present : (process.handles id).waitSets waitSet = some set) :
    process.updateInWaitSetHandle waitSet id shouldAdd =
      (process.handles id).setWaitSet waitSet
        (controlled (process.handles id) set shouldAdd source id) := by
  simp only [updateInWaitSetHandle, found, present]
  rfl

theorem Sound.setInterest {member enrolled other : Id → Id → Prop}
    (sound : Sound base exclusive member enrolled process) {waitSet : Id} {set new : WaitSet Id}
    (registered : Registered base exclusive other (process.setWaitSet waitSet new))
    (present : process.waitSets waitSet = some set) (same : shape new = shape set) :
    Sound base exclusive member other (process.setWaitSet waitSet new) ∧
      Keeps process (process.setWaitSet waitSet new) := by
  have sets := setWaitSet_sameSets present same
  exact ⟨⟨sound.accounts.frame rfl rfl rfl rfl rfl (fun _ => rfl) sets.setCore,
    sound.references.frame fun _ => rfl, registered, sets.distinct sound.distinct⟩, sets,
    .of_sources rfl⟩

theorem Sound.enrol {member enrolled other : Id → Id → Prop}
    (sound : Sound base exclusive member enrolled process) {waitSet id : Id} {source : Source Id}
    {set : WaitSet Id} (found : process.sources id = some source)
    (present : process.waitSets waitSet = some set)
    (more : ∀ name one, other name one ↔ enrolled name one ∨ (name = waitSet ∧ one = id))
    (fresh : ¬ enrolled waitSet id) :
    Sound base exclusive member other (process.updateInWaitSetHandle waitSet id true) ∧
      Keeps process (process.updateInWaitSetHandle waitSet id true) := by
  obtain ⟨held, keeps, now, here, ready⟩ := sound.handles found
  obtain ⟨after, later, _⟩ := keeps.sets.symm.back present
  rw [updateInWaitSetHandle_eq here later]
  obtain ⟨added, then_⟩ := held.setInterest
    (held.registered.add held.accounts here ready later more fresh) later rfl
  exact ⟨added, keeps.trans then_⟩

theorem Sound.withdraw {member enrolled other : Id → Id → Prop}
    (sound : Sound base exclusive member enrolled process) {waitSet id : Id} {source : Source Id}
    {set : WaitSet Id} (found : process.sources id = some source)
    (present : process.waitSets waitSet = some set)
    (fewer : ∀ name one, other name one ↔ enrolled name one ∧ ¬ (name = waitSet ∧ one = id)) :
    Sound base exclusive member other (process.updateInWaitSetHandle waitSet id false) ∧
      Keeps process (process.updateInWaitSetHandle waitSet id false) := by
  obtain ⟨held, keeps, now, here, ready⟩ := sound.handles found
  obtain ⟨after, later, _⟩ := keeps.sets.symm.back present
  rw [updateInWaitSetHandle_eq here later]
  obtain ⟨deleted, then_⟩ := held.setInterest
    (held.registered.delete held.accounts here ready later fewer) later rfl
  exact ⟨deleted, keeps.trans then_⟩

/-! ### The calls of a user -/

theorem userHolds_iff {id : Id} :
    process.userHolds id = true ↔
      ∃ source, process.sources id = some source ∧ .user ∈ source.references := by
  unfold userHolds
  cases found : process.sources id with
  | none => simp
  | some source => simp

theorem setWaitSet_member {waitSet : Id} {set : WaitSet Id} (name id : Id) :
    (process.setWaitSet waitSet set).Member name id ↔
      (name = waitSet ∧ id ∈ set.sources) ∨ (name ≠ waitSet ∧ process.Member name id) := by
  by_cases here : name = waitSet
  · simp [Member, here]
  · simp [Member, here]

theorem setWaitSet_setCore {waitSet : Id} {set new : WaitSet Id}
    (present : process.waitSets waitSet = some set) (same : setCore new = setCore set)
    (name : Id) : ((process.setWaitSet waitSet new).waitSets name).map setCore =
      (process.waitSets name).map setCore := by
  by_cases here : name = waitSet
  · rw [here, setWaitSet_waitSets, Function.update_self, present, Option.map_some,
      Option.map_some, same]
  · rw [setWaitSet_waitSets, Function.update_of_ne here]

theorem Sound.setMembers {member enrolled : Id → Id → Prop}
    (sound : Sound base exclusive member enrolled process) {waitSet : Id} {set : WaitSet Id}
    (present : process.waitSets waitSet = some set) {sources : List Id}
    (distinct : sources.Nodup) :
    Sound base exclusive member enrolled
      (process.setWaitSet waitSet { set with sources := sources }) := by
  refine ⟨sound.accounts.frame rfl rfl rfl rfl rfl (fun _ => rfl)
    (setWaitSet_setCore present rfl), sound.references.frame fun _ => rfl, ?_, ?_⟩
  · apply sound.registered.setInterest
    · exact fun _ _ _ => Iff.rfl
    · exact fun number id entry => sound.registered.live waitSet set number id present entry
    · intro only id joined
      obtain ⟨old, source, earlier, rest⟩ := sound.registered.complete only waitSet id joined
      rw [present] at earlier
      cases earlier
      exact ⟨source, rest⟩
  · rw [setWaitSet_waitSets]
    apply forall_update
    · intro name old _ earlier
      exact sound.distinct name old earlier
    · intro new same
      cases same
      exact distinct

theorem Invariant.addSource (invariant : Invariant base exclusive process)
    {waitSet id : Id} {set : WaitSet Id} {source : Source Id}
    (found : process.sources id = some source) (present : process.waitSets waitSet = some set)
    (absent : id ∉ set.sources) :
    Changes base exclusive process (((process.addReference id (.waitSet waitSet)).setWaitSet waitSet
      { set with sources := id :: set.sources }).updateInWaitSetHandle waitSet id true)
      (fun name one => process.Member name one ∨ (name = waitSet ∧ one = id)) := by
  have outside : ¬ process.Member waitSet id := by
    intro member
    obtain ⟨old, earlier, joined⟩ := member
    rw [present] at earlier
    cases earlier
    exact absent joined
  have joins : ∀ name one, (process.Member name one ∨ (name = waitSet ∧ one = id)) ↔
      process.Member name one ∨ (one = id ∧ Holder.waitSet waitSet = .waitSet name) := by
    intro name one
    rw [Holder.waitSet.injEq, eq_comm, and_comm]
  obtain ⟨counted, sets, sources, persist⟩ := Sound.addReference invariant found joins (by
    intro name same
    cases same
    exact outside)
  have still : (process.addReference id (.waitSet waitSet)).waitSets waitSet = some set := by
    rw [sets, present]
  have joined := counted.setMembers still
    (List.nodup_cons.mpr ⟨absent, invariant.distinct waitSet set present⟩)
  have members : ∀ name one, ((process.addReference id (.waitSet waitSet)).setWaitSet waitSet
      { set with sources := id :: set.sources }).Member name one ↔
      process.Member name one ∨ (name = waitSet ∧ one = id) := by
    intro name one
    rw [setWaitSet_member]
    by_cases here : name = waitSet
    · simp [Member, here, present, or_comm]
    · simp [Member, here, sets]
  have alive : ((process.addReference id (.waitSet waitSet)).setWaitSet waitSet
      { set with sources := id :: set.sources }).sources id =
      some { source with references := .waitSet waitSet :: source.references } := by
    rw [setWaitSet_sources, sources, Function.update_self]
  obtain ⟨enrolled, keeps⟩ := joined.enrol alive (Function.update_self ..)
    (fun _ _ => Iff.rfl) outside
  refine .of_sound enrolled ?_ ?_
  · intro name one
    rw [keeps.sets.member, members]
  · have inserted : Persist (process.addReference id (.waitSet waitSet))
        ((process.addReference id (.waitSet waitSet)).setWaitSet waitSet
          { set with sources := id :: set.sources }) := .of_sources rfl
    exact (persist.trans inserted).trans keeps.sources

theorem Invariant.removeSource (invariant : Invariant base exclusive process)
    {waitSet id : Id} {set : WaitSet Id} {source : Source Id}
    (found : process.sources id = some source) (held : .user ∈ source.references)
    (present : process.waitSets waitSet = some set) (joined : id ∈ set.sources) :
    Changes base exclusive process (((process.setWaitSet waitSet
      { set with sources := set.sources.erase id }).dropReference id
        (.waitSet waitSet)).updateInWaitSetHandle waitSet id false)
      (fun name one => process.Member name one ∧ ¬ (name = waitSet ∧ one = id)) := by
  have once := invariant.distinct waitSet set present
  have erased := Sound.setMembers invariant present (once.erase id)
  have listed : .waitSet waitSet ∈ source.references :=
    (invariant.references.listed id source found waitSet).mpr ⟨set, present, joined⟩
  have shared : source.references ≠ [.waitSet waitSet] := by
    intro single
    rw [single, List.mem_singleton] at held
    contradiction
  have members : ∀ name one, (process.setWaitSet waitSet
      { set with sources := set.sources.erase id }).Member name one ↔
      process.Member name one ∧ ¬ (name = waitSet ∧ one = id) := by
    intro name one
    rw [setWaitSet_member]
    by_cases here : name = waitSet
    · simp [Member, here, present, once.mem_erase_iff, and_comm]
    · simp [Member, here]
  have leaves : ∀ name one, (process.setWaitSet waitSet
      { set with sources := set.sources.erase id }).Member name one ↔
      process.Member name one ∧ ¬ (one = id ∧ Holder.waitSet waitSet = .waitSet name) := by
    intro name one
    rw [members, Holder.waitSet.injEq, and_comm (a := name = waitSet), eq_comm (a := name)]
  obtain ⟨dropped, early⟩ := erased.dropReference found listed leaves fun single =>
    absurd single shared
  obtain ⟨after, later, _⟩ := early.sets.symm.back
    (Function.update_self waitSet _ process.waitSets)
  have alive : ∃ now, ((process.setWaitSet waitSet
      { set with sources := set.sources.erase id }).dropReference id
        (.waitSet waitSet)).sources id = some now := by
    rcases @dropReference_cases Id _ (process.setWaitSet waitSet
      { set with sources := set.sources.erase id }) id source _ found listed with
      ⟨single, _⟩ | ⟨_, kept⟩
    · exact absurd single shared
    · rw [kept, setSource_sources, Function.update_self]
      exact ⟨_, rfl⟩
  obtain ⟨now, alive⟩ := alive
  obtain ⟨withdrawn, late⟩ := dropped.withdraw alive later fun name one =>
    members name one
  refine .of_sound (withdrawn.congr (fun name one => (members name one).symm) ?_) ?_ ?_
  · exact fun name one => (members name one).symm
  · intro name one
    rw [late.sets.member, early.sets.member, members]
  · have erased : Persist process (process.setWaitSet waitSet
        { set with sources := set.sources.erase id }) := .of_sources rfl
    exact erased.trans (early.trans late).sources

/-! ### The destructor of a wait set -/

/-- The body of the destructor asks for the removal of every member. -/
theorem Sound.unregisterAll {member enrolled : Id → Id → Prop}
    (waitSet : Id) (ids : List Id) (sound : Sound base exclusive member enrolled process)
    (members : ∀ id ∈ ids, member waitSet id)
    (present : ∃ set, process.waitSets waitSet = some set) :
    Sound base exclusive member (fun name id => enrolled name id ∧ ¬ (name = waitSet ∧ id ∈ ids))
        (ids.foldl (fun process id => process.updateInWaitSetHandle waitSet id false) process) ∧
      Keeps process
        (ids.foldl (fun process id => process.updateInWaitSetHandle waitSet id false) process) := by
  induction ids generalizing process enrolled with
  | nil =>
      refine ⟨sound.congr (fun _ _ => Iff.rfl) ?_, .refl process⟩
      intro name id
      simp
  | cons id ids ih =>
      obtain ⟨set, here⟩ := present
      obtain ⟨source, found⟩ :=
        sound.references.alive waitSet id (members id (List.mem_cons_self ..))
      obtain ⟨withdrawn, early⟩ := sound.withdraw found here fun _ _ => Iff.rfl
      obtain ⟨after, later, _⟩ := early.sets.symm.back here
      obtain ⟨all, late⟩ := ih withdrawn
        (fun other listed => members other (List.mem_cons_of_mem _ listed)) ⟨after, later⟩
      refine ⟨all.congr (fun _ _ => Iff.rfl) ?_, early.trans late⟩
      intro name one
      rw [List.mem_cons]
      tauto

/-- The descriptor is closed while the object still holds its members. -/
theorem Sound.closeWaitSet {member enrolled : Id → Id → Prop}
    (sound : Sound base exclusive member enrolled process) {waitSet : Id} {set : WaitSet Id}
    (present : process.waitSets waitSet = some set) :
    Sound base exclusive member (fun name id => enrolled name id ∧ name ≠ waitSet)
        (process.closeWaitSet waitSet set) ∧
      (∀ name id, (process.closeWaitSet waitSet set).Member name id ↔
        process.Member name id ∧ name ≠ waitSet) ∧
      Persist process (process.closeWaitSet waitSet set) := by
  obtain ⟨gives, accounts⟩ := sound.accounts.closeWaitSet present
  have same : SameSets process (process.closeHandle set.handle) := gives.sameSets
  have waitSets : (process.closeWaitSet waitSet set).waitSets =
      Function.update (process.closeHandle set.handle).waitSets waitSet none := rfl
  have elsewhere : ∀ name old, (process.closeWaitSet waitSet set).waitSets name = some old →
      name ≠ waitSet ∧ (process.closeHandle set.handle).waitSets name = some old := by
    rw [waitSets]
    exact forall_update (fun name old different earlier => ⟨different, earlier⟩) nofun
  refine ⟨⟨accounts, ?_, sound.registered.closeWaitSet sound.accounts present, ?_⟩, ?_,
    .of_sources gives.sources⟩
  · apply sound.references.frame
    intro id
    rw [← gives.sources]
    rfl
  · intro name old later
    exact same.distinct sound.distinct name old (elsewhere name old later).2
  · intro name id
    rw [← same.member]
    constructor
    · intro member
      obtain ⟨old, later, joined⟩ := member
      obtain ⟨different, earlier⟩ := elsewhere name old later
      exact ⟨⟨old, earlier, joined⟩, different⟩
    · intro both
      obtain ⟨⟨old, earlier, joined⟩, different⟩ := both
      refine ⟨old, ?_, joined⟩
      rw [waitSets, Function.update_of_ne different]
      exact earlier

/-- The set of shared_ptrs is destroyed after the body. -/
theorem Sound.dropAll {left : Id → Id → Prop} (waitSet : Id)
    (ids : List Id) (distinct : ids.Nodup)
    (sound : Sound base exclusive (fun name id => left name id ∨ (name = waitSet ∧ id ∈ ids)) left
      process)
    (gone : ∀ id, ¬ left waitSet id) :
    Sound base exclusive left left
        (ids.foldl (fun process id => process.dropReference id (.waitSet waitSet)) process) ∧
      Keeps process
        (ids.foldl (fun process id => process.dropReference id (.waitSet waitSet)) process) := by
  induction ids generalizing process with
  | nil =>
      refine ⟨sound.congr ?_ fun _ _ => Iff.rfl, .refl process⟩
      intro name id
      simp
  | cons id ids ih =>
      obtain ⟨fresh, tail⟩ := List.nodup_cons.mp distinct
      obtain ⟨source, found⟩ :=
        sound.references.alive waitSet id (Or.inr ⟨rfl, List.mem_cons_self ..⟩)
      have held : .waitSet waitSet ∈ source.references :=
        (sound.references.listed id source found waitSet).mpr (Or.inr ⟨rfl, List.mem_cons_self ..⟩)
      have alone : source.references = [.waitSet waitSet] → ∀ name, ¬ left name id := by
        intro single name enrolled
        have listed := (sound.references.listed id source found name).mpr (Or.inl enrolled)
        rw [single, List.mem_singleton, Holder.waitSet.injEq] at listed
        rw [listed] at enrolled
        exact gone id enrolled
      have fewer : ∀ name one, (left name one ∨ (name = waitSet ∧ one ∈ ids)) ↔
          (left name one ∨ (name = waitSet ∧ one ∈ id :: ids)) ∧
            ¬ (one = id ∧ Holder.waitSet waitSet = .waitSet name) := by
        intro name one
        rw [Holder.waitSet.injEq, List.mem_cons]
        by_cases here : name = waitSet
        · rw [here]
          by_cases same : one = id
          · simp [same, gone, fresh]
          · simp [same]
        · simp [here, Ne.symm here]
      obtain ⟨dropped, early⟩ := sound.dropReference found held fewer alone
      obtain ⟨all, late⟩ := ih tail dropped
      exact ⟨all, early.trans late⟩

theorem Invariant.destroyWaitSet (invariant : Invariant base exclusive process)
    {waitSet : Id} {after : Process Id} (destroyed : process.destroyWaitSet waitSet = some after) :
    Changes base exclusive process after
      (fun name one => process.Member name one ∧ name ≠ waitSet) := by
  unfold Process.destroyWaitSet at destroyed
  cases present : process.waitSets waitSet with
  | none =>
      rw [present] at destroyed
      contradiction
  | some set =>
      rw [present] at destroyed
      cases destroyed
      obtain ⟨unregistered, early⟩ := Sound.unregisterAll waitSet set.sources invariant
        (fun id joined => ⟨set, present, joined⟩) ⟨set, present⟩
      obtain ⟨old, earlier, handle, sources⟩ := early.sets.symm.back present
      obtain ⟨closed, members, persist⟩ := unregistered.closeWaitSet earlier
      have joins : ∀ name id, ((process.Member name id ∧ name ≠ waitSet) ∨
          (name = waitSet ∧ id ∈ set.sources)) ↔ process.Member name id := by
        intro name id
        by_cases here : name = waitSet
        · simp [here, Member, present]
        · simp [here]
      have others : ∀ name id, (process.Member name id ∧ name ≠ waitSet) ↔
          (process.Member name id ∧ ¬ (name = waitSet ∧ id ∈ set.sources)) ∧
            name ≠ waitSet := by
        tauto
      obtain ⟨left, late⟩ := (closed.congr joins others).dropAll waitSet set.sources
        (invariant.distinct waitSet set present) (fun _ both => both.2 rfl)
      rw [closeWaitSet, handle] at left late members persist
      refine .of_sound left ?_ ((early.sources.trans persist).trans late.sources)
      intro name id
      rw [late.sets.member, members, early.sets.member]

/-! ### Every step -/

theorem Invariant.make (invariant : Invariant base exclusive process) {id : Id}
    {maker : Maker} (absent : process.sources id = none)
    (careful : exclusive → Exclusive base process maker) :
    Changes base exclusive process (process.make id maker) process.Member := by
  have strange : ∀ waitSet, ¬ process.Member waitSet id := by
    intro waitSet member
    obtain ⟨source, found⟩ := invariant.references.alive waitSet id member
    rw [absent] at found
    contradiction
  refine ⟨⟨invariant.accounts.make maker absent, invariant.references.make absent maker,
    invariant.registered.make strange careful, invariant.distinct⟩, fun _ _ => Iff.rfl, ?_⟩
  intro other old now earlier found
  have different : other ≠ id := by
    intro same
    rw [same, absent] at earlier
    contradiction
  have same : (process.make id maker).sources other = process.sources other :=
    Function.update_of_ne different ..
  rw [same, earlier] at found
  cases found
  exact .refl old

theorem Invariant.createWaitSet (invariant : Invariant base exclusive process)
    {id : Id} (absent : process.waitSets id = none) :
    Changes base exclusive process (process.createWaitSet id) process.Member := by
  have members : ∀ name one, (process.createWaitSet id).Member name one ↔
      process.Member name one := by
    intro name one
    by_cases here : name = id
    · simp [Member, Process.createWaitSet, here, absent]
    · simp [Member, Process.createWaitSet, openFile, here]
  have still : References process.Member (process.createWaitSet id) :=
    invariant.references.frame fun _ => rfl
  refine .of_sound ⟨invariant.accounts.createWaitSet absent, still,
    invariant.registered.createWaitSet absent, ?_⟩ members (.of_sources rfl)
  apply forall_update
  · intro name set _ present
    exact invariant.distinct name set present
  · intro set same
    cases same
    exact List.nodup_nil

theorem Invariant.copy (invariant : Invariant base exclusive process) {id : Id}
    (holds : process.userHolds id = true) :
    Changes base exclusive process (process.addReference id .user) process.Member := by
  obtain ⟨source, found, _⟩ := userHolds_iff.mp holds
  have unjoined : ∀ waitSet one, process.Member waitSet one ↔
      process.Member waitSet one ∨ (one = id ∧ Holder.user = .waitSet waitSet) := by
    simp
  obtain ⟨counted, sets, _, persist⟩ := Sound.addReference invariant found unjoined nofun
  exact .of_keeps counted ⟨fun _ => by rw [sets], persist⟩

theorem Invariant.drop (invariant : Invariant base exclusive process) {id : Id}
    (holds : process.userHolds id = true) :
    Changes base exclusive process (process.dropReference id .user) process.Member := by
  obtain ⟨source, found, held⟩ := userHolds_iff.mp holds
  have alone : source.references = [.user] → ∀ waitSet, ¬ process.Member waitSet id := by
    intro single waitSet member
    have listed := (invariant.references.listed id source found waitSet).mpr member
    rw [single, List.mem_singleton] at listed
    contradiction
  have unchanged : ∀ waitSet one, process.Member waitSet one ↔
      process.Member waitSet one ∧ ¬ (one = id ∧ Holder.user = .waitSet waitSet) := by
    simp
  obtain ⟨dropped, keeps⟩ := Sound.dropReference invariant found held unchanged alone
  exact .of_keeps dropped keeps

theorem Invariant.unchanged (invariant : Invariant base exclusive process) :
    Changes base exclusive process process process.Member :=
  .of_keeps invariant (.refl process)

def membership (members : Id → Id → Prop) (action : Action Id) (name one : Id) : Prop :=
  match action with
  | .addSource waitSet id => members name one ∨ (name = waitSet ∧ one = id)
  | .removeSource waitSet id => members name one ∧ ¬ (name = waitSet ∧ one = id)
  | .destroyWaitSet waitSet => members name one ∧ name ≠ waitSet
  | .make _ _ => members name one
  | .copy _ => members name one
  | .drop _ => members name one
  | .handles _ => members name one
  | .createWaitSet _ => members name one

/-- Callers lend open handles of others, each to one source. -/
def Lends (base : Int → Option File) (process : Process Id) (action : Action Id) : Prop :=
  ∀ id maker, action = .make id maker → Exclusive base process maker

theorem Invariant.step (invariant : Invariant base exclusive process)
    {action : Action Id} {after : Process Id} (performed : process.step action = some after)
    (careful : exclusive → Lends base process action) :
    Changes base exclusive process after (membership process.Member action) := by
  have running := invariant.accounts.running
  simp only [Process.step, running, Bool.false_eq_true, if_false] at performed
  cases action with
  | make id maker =>
      obtain ⟨absent, same⟩ := Option.ite_none_left_eq_some.mp performed
      cases same
      exact invariant.make (Option.not_isSome_iff_eq_none.mp absent)
        fun only => careful only id maker rfl
  | copy id =>
      obtain ⟨holds, same⟩ := Option.ite_none_right_eq_some.mp performed
      cases same
      exact invariant.copy holds
  | drop id =>
      obtain ⟨holds, same⟩ := Option.ite_none_right_eq_some.mp performed
      cases same
      exact invariant.drop holds
  | handles id =>
      obtain ⟨holds, same⟩ := Option.ite_none_right_eq_some.mp performed
      cases same
      obtain ⟨source, found, _⟩ := userHolds_iff.mp holds
      obtain ⟨sound, keeps, _⟩ := Sound.handles invariant found
      exact .of_keeps sound keeps
  | createWaitSet id =>
      obtain ⟨absent, same⟩ := Option.ite_none_left_eq_some.mp performed
      cases same
      exact invariant.createWaitSet (Option.not_isSome_iff_eq_none.mp absent)
  | addSource waitSet id =>
      obtain ⟨holds, added⟩ := Option.ite_none_right_eq_some.mp performed
      obtain ⟨source, found, _⟩ := userHolds_iff.mp holds
      unfold Process.addSource at added
      cases present : process.waitSets waitSet with
      | none =>
          rw [present] at added
          contradiction
      | some set =>
          by_cases joined : id ∈ set.sources
          · simp only [present, List.contains_eq_mem, joined, decide_true, if_true] at added
            cases added
            apply invariant.unchanged.congr
            intro name one
            refine or_iff_left_of_imp ?_
            intro both
            rw [both.1, both.2]
            exact ⟨set, present, joined⟩
          · simp only [present, List.contains_eq_mem, joined, decide_false, Bool.false_eq_true,
              if_false] at added
            cases added
            exact invariant.addSource found present joined
  | removeSource waitSet id =>
      obtain ⟨holds, removed⟩ := Option.ite_none_right_eq_some.mp performed
      obtain ⟨source, found, held⟩ := userHolds_iff.mp holds
      unfold Process.removeSource at removed
      cases present : process.waitSets waitSet with
      | none =>
          rw [present] at removed
          contradiction
      | some set =>
          by_cases joined : id ∈ set.sources
          · simp only [present, List.contains_eq_mem, joined, decide_true, if_true] at removed
            cases removed
            exact invariant.removeSource found held present joined
          · simp only [present, List.contains_eq_mem, joined, decide_false, Bool.false_eq_true,
              if_false] at removed
            cases removed
            apply invariant.unchanged.congr
            intro name one
            refine and_iff_left_of_imp ?_
            intro member both
            rw [both.1, both.2] at member
            obtain ⟨old, earlier, listed⟩ := member
            rw [present] at earlier
            cases earlier
            exact joined listed
  | destroyWaitSet waitSet => exact invariant.destroyWaitSet performed

theorem invariant_start (table : HandleTable File)
    (foreign : exclusive → ∀ number file, table.find number = some file → file.serial = none) :
    Invariant table.find exclusive (start table : Process Id) := by
  have nobody : ∀ waitSet id, ¬ (start table : Process Id).Member waitSet id := by
    intro waitSet id member
    obtain ⟨set, impossible, _⟩ := member
    contradiction
  refine ⟨accounts_start table, ⟨?_, ?_, ?_, ?_⟩, ⟨?_, ?_, ?_⟩, ?_⟩
  · intro id source impossible
    contradiction
  · intro id source impossible
    contradiction
  · intro id source impossible
    contradiction
  · intro waitSet id member
    exact absurd member (nobody waitSet id)
  · intro waitSet set number id impossible
    contradiction
  · intro only
    refine ⟨foreign only, ?_, ?_, ?_, ?_⟩
    · intro id source impossible
      contradiction
    · intro id source handles impossible
      contradiction
    · intro id source handles impossible
      contradiction
    · intro first second one two impossible
      contradiction
  · intro only waitSet id member
    exact absurd member (nobody waitSet id)
  · intro waitSet set impossible
    contradiction

end Process

end CoreLib.SourceLifetime
