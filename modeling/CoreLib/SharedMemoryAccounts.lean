/-
What SharedMemory objects hold, over every run.

The accounts say that the descriptors and the mappings are exactly those of the ready
objects, each released once.  They hold in every state of a run exactly when every
constructor gets all three of its resources: the code behind `failure` aborts when
shm_open or mmap has failed, and forgets the descriptor when ftruncate has.
-/

import CoreLib.SharedMemory

set_option autoImplicit false

namespace CoreLib

open Foundation

namespace SharedMemory

/-! ### One constructor -/

def Maps (kernel : Kernel) (granted : Option Address) (size : Nat) : Prop :=
  size ≠ 0 ∧ ∃ address, granted = some address ∧ kernel.mappings address.val = none

theorem mmap_of_maps (kernel : Kernel) {address : Address} {size : Nat} (object : OpenFile)
    (positive : size ≠ 0) (free : kernel.mappings address.val = none) :
    mmap kernel (some address) size object =
      (address.val,
        { kernel with
          mappings := Function.update kernel.mappings address (some ⟨object, size⟩)
          mapped := kernel.mapped ++ [(address.val, ⟨object, size⟩)] }) := by
  simp [mmap, positive, free]

theorem mmap_of_not_maps (kernel : Kernel) {granted : Option Address} {size : Nat}
    (object : OpenFile) (fails : ¬ Maps kernel granted size) :
    mmap kernel granted size object = (MAP_FAILED, kernel) := by
  cases granted with
  | none => rfl
  | some address =>
      unfold mmap
      by_cases empty : size = 0
      · simp [empty]
      · cases present : kernel.mappings address.val with
        | none => exact absurd ⟨empty, address, rfl, present⟩ fails
        | some region => simp [present]

/-- close(-1) fails, so the code behind `failure` aborts without a handle. -/
theorem failure_without_handle (memory : SharedMemory) (kernel : Kernel) (size : Nat)
    (address : memory.address = 0) (handle : memory.handle = -1) :
    failure memory kernel size = none := by
  have closed : kernel.space.table.find (-1) = none :=
    kernel.space.table.find_negative (by decide)
  simp [failure, close, address, handle, closed]

theorem failure_of_map_failed (memory : SharedMemory) (kernel : Kernel) (size : Nat)
    (address : memory.address = MAP_FAILED) : failure memory kernel size = none := by
  simp [failure, munmap, address, MAP_FAILED]

/-- With a handle and no mapping the code behind `failure` releases nothing. -/
theorem failure_with_handle (memory : SharedMemory) (kernel : Kernel) (size : Nat)
    (address : memory.address = 0) (handle : memory.handle ≠ -1) :
    failure memory kernel size = some (blank, kernel) := by
  simp [failure, address, handle, blank]

theorem construct_ready {kernel : Kernel} {size : Nat} {calls : Calls} {address : Address}
    (finds : FindsName calls.toEnvironment kernel.space)
    (truncated : CL_TEMP_FAILURE_RETRY calls.ftruncate ≠ -1) (positive : size ≠ 0)
    (granted : calls.mmap = some address) (free : kernel.mappings address.val = none) :
    ∃ space, space.table = kernel.space.table.insert kernel.space.nextObject ∧
      construct kernel size calls = some
        ({ ready := true
           address := address
           handle := kernel.space.table.next
           size := size },
          { kernel with
            space := space
            opened := kernel.opened ++ [(kernel.space.table.next, kernel.space.nextObject)]
            mappings := Function.update kernel.mappings address
              (some ⟨kernel.space.nextObject, size⟩)
            mapped := kernel.mapped ++ [(address.val, ⟨kernel.space.nextObject, size⟩)] }) := by
  obtain ⟨log, space, returned, valid, table⟩ := backing_of_name finds
  have mapped := mmap_of_maps
    { kernel with
      space := space
      opened := kernel.opened ++ [(kernel.space.table.next, kernel.space.nextObject)] }
    kernel.space.nextObject positive free
  refine ⟨space, table, ?_⟩
  simp only [construct, blank, returned, if_neg valid, if_neg truncated, granted, mapped,
    if_neg address.property.2]

theorem construct_without_name {kernel : Kernel} {calls : Calls} (size : Nat)
    (unfound : ¬ FindsName calls.toEnvironment kernel.space) :
    construct kernel size calls = none := by
  obtain ⟨log, space, returned⟩ := backing_without_name unfound
  simp only [construct, blank, returned, if_true]
  exact failure_without_handle _ _ _ rfl rfl

/-- A descriptor whose size cannot be set stays open without an owner. -/
theorem construct_untruncated {kernel : Kernel} {calls : Calls} (size : Nat)
    (finds : FindsName calls.toEnvironment kernel.space)
    (failed : CL_TEMP_FAILURE_RETRY calls.ftruncate = -1) :
    ∃ space, space.table = kernel.space.table.insert kernel.space.nextObject ∧
      construct kernel size calls = some (blank,
        { kernel with
          space := space
          opened := kernel.opened ++
            [(kernel.space.table.next, kernel.space.nextObject)] }) := by
  obtain ⟨log, space, returned, valid, table⟩ := backing_of_name finds
  refine ⟨space, table, ?_⟩
  have unwound := failure_with_handle { blank with handle := kernel.space.table.next }
    { kernel with
      space := space
      opened := kernel.opened ++ [(kernel.space.table.next, kernel.space.nextObject)] } size rfl
    valid
  unfold construct
  rw [show blank.handle = -1 from rfl, returned]
  simp only [if_neg valid, if_pos failed, unwound]

theorem construct_unmapped {kernel : Kernel} {calls : Calls} {size : Nat}
    (finds : FindsName calls.toEnvironment kernel.space)
    (truncated : CL_TEMP_FAILURE_RETRY calls.ftruncate ≠ -1)
    (fails : ¬ Maps kernel calls.mmap size) : construct kernel size calls = none := by
  obtain ⟨log, space, returned, valid, _⟩ := backing_of_name finds
  have unmapped := mmap_of_not_maps
    { kernel with
      space := space
      opened := kernel.opened ++ [(kernel.space.table.next, kernel.space.nextObject)] }
    kernel.space.nextObject fails
  simp only [construct, blank, returned, if_neg valid, if_neg truncated, unmapped, if_true]
  exact failure_of_map_failed _ _ _ rfl

/-! ### One cleanup -/

theorem cleanup_blank {memory : SharedMemory} (kernel : Kernel) (unready : memory.ready = false) :
    cleanup memory kernel = some (memory, kernel) := by
  simp [cleanup, unready]

theorem close_held (kernel : Kernel) {handle : Int} {object : OpenFile}
    (held : kernel.space.table.find handle = some object) :
    ∃ space, space.table = kernel.space.table.remove handle ∧
      space.nextObject = kernel.space.nextObject ∧
      close kernel handle = (0,
        { kernel with
          space := space
          closed := kernel.closed ++ [(handle, object)] }) := by
  unfold close
  split
  · rename_i absent
    rw [held] at absent
    contradiction
  · rename_i other present
    rw [held] at present
    cases present
    refine ⟨_, ?_, ?_, rfl⟩
    · rfl
    · rfl

theorem cleanup_ready {memory : SharedMemory} {kernel : Kernel} {object : OpenFile}
    {region : Region} (ready : memory.ready = true)
    (held : kernel.space.table.find memory.handle = some object)
    (mapped : kernel.mappings memory.address = some region) (size : region.size = memory.size)
    (valid : memory.address ≠ MAP_FAILED) :
    ∃ space, space.table = kernel.space.table.remove memory.handle ∧
      space.nextObject = kernel.space.nextObject ∧
      cleanup memory kernel = some (blank,
        { kernel with
          space := space
          mappings := Function.update kernel.mappings memory.address none
          unmapped := kernel.unmapped ++ [(memory.address, region)]
          closed := kernel.closed ++ [(memory.handle, object)] }) := by
  have unmap : munmap kernel memory.address memory.size =
      (0,
        { kernel with
          mappings := Function.update kernel.mappings memory.address none
          unmapped := kernel.unmapped ++ [(memory.address, region)] }) := by
    simp [munmap, valid, mapped, size]
  obtain ⟨space, table, next, closed⟩ := close_held
    { kernel with
      mappings := Function.update kernel.mappings memory.address none
      unmapped := kernel.unmapped ++ [(memory.address, region)] } held
  refine ⟨space, table, next, ?_⟩
  unfold cleanup
  rw [if_neg (by simp [ready]), unmap]
  simp only [closed]
  rfl

/-! ### The accounts -/

namespace World

variable {Id : Type}

def descriptor (entry : Entry) : Option (Int × OpenFile) :=
  if entry.memory.ready = true then some (entry.memory.handle, entry.object) else none

def mapping (entry : Entry) : Option (Nat × Region) :=
  if entry.memory.ready = true then
    some (entry.memory.address, ⟨entry.object, entry.memory.size⟩)
  else none

/-- No CL_CHECK has failed, every object is ready with the requested size or blank, and
the acquired descriptors and mappings are those of the ready objects or were released
once; all others are as they were. -/
structure AllOrNothing (base : SharedSpace) (world : World Id) : Prop where
  running : world.aborted = false
  sized : ∀ id entry, world.objects id = some entry → entry.memory.ready = true →
    entry.memory.size = entry.requested
  blank : ∀ id entry, world.objects id = some entry → entry.memory.ready = false →
    entry.memory = SharedMemory.blank
  apart : ∀ first second one two, world.objects first = some one →
    world.objects second = some two → one.memory.ready = true → two.memory.ready = true →
    one.object = two.object → first = second
  descriptors : Accounted base.table.find world.kernel.space.table.find world.kernel.opened
    world.kernel.closed (Held world.objects descriptor)
  mappings : Accounted (fun _ => none) world.kernel.mappings world.kernel.mapped
    world.kernel.unmapped (Held world.objects mapping)

/-- The condition on a step: a constructor gets its three resources. -/
def Acquires (world : World Id) : Action Id → Prop
  | .construct _ size calls =>
      FindsName calls.toEnvironment world.kernel.space ∧
        CL_TEMP_FAILURE_RETRY calls.ftruncate ≠ -1 ∧ Maps world.kernel calls.mmap size
  | .cleanup _ => True
  | .destroy _ => True

/-- The accounts, with every logged object older than the next one. -/
structure Invariant (base : SharedSpace) (world : World Id) : Prop
    extends AllOrNothing base world where
  openedOlder : ∀ number object, (number, object) ∈ world.kernel.opened →
    object < world.kernel.space.nextObject
  mappedOlder : ∀ address region, (address, region) ∈ world.kernel.mapped →
    address ≠ MAP_FAILED ∧ region.object < world.kernel.space.nextObject

def Shares (one two : Entry) : Prop :=
  one.memory.ready = true ∧ two.memory.ready = true ∧ one.object = two.object

theorem descriptor_ready {entry : Entry} (ready : entry.memory.ready = true) :
    descriptor entry = some (entry.memory.handle, entry.object) := if_pos ready

theorem mapping_ready {entry : Entry} (ready : entry.memory.ready = true) :
    mapping entry = some (entry.memory.address, ⟨entry.object, entry.memory.size⟩) :=
  if_pos ready

theorem descriptor_unready {entry : Entry} (unready : entry.memory.ready = false) :
    descriptor entry = none := by
  simp [descriptor, unready]

theorem mapping_unready {entry : Entry} (unready : entry.memory.ready = false) :
    mapping entry = none := by
  simp [mapping, unready]

theorem ready_of_descriptor {entry : Entry} {number : Int} {object : OpenFile}
    (holds : descriptor entry = some (number, object)) :
    entry.memory.ready = true ∧ entry.object = object := by
  unfold descriptor at holds
  split at holds
  · rename_i ready
    cases holds
    exact ⟨ready, rfl⟩
  · contradiction

theorem ready_of_mapping {entry : Entry} {address : Nat} {region : Region}
    (holds : mapping entry = some (address, region)) :
    entry.memory.ready = true ∧ entry.object = region.object := by
  unfold mapping at holds
  split at holds
  · rename_i ready
    cases holds
    exact ⟨ready, rfl⟩
  · contradiction

@[simp] theorem finish_kernel [DecidableEq Id] (world : World Id) (id : Id) (kernel : Kernel)
    (entry : Option Entry) : (world.finish id kernel entry).kernel = kernel := rfl

@[simp] theorem finish_objects [DecidableEq Id] (world : World Id) (id : Id) (kernel : Kernel)
    (entry : Option Entry) :
    (world.finish id kernel entry).objects = Function.update world.objects id entry := rfl

/-! ### One step -/

section Steps

variable {base : SharedSpace} {world : World Id} {id : Id}

inductive Transition [DecidableEq Id] (world : World Id) : Action Id → World Id → Prop where
  | constructAborts (id : Id) (size : Nat) (calls : Calls) (free : world.objects id = none)
      (fails : SharedMemory.construct world.kernel size calls = none) :
      Transition world (.construct id size calls) world.abort
  | construct (id : Id) (size : Nat) (calls : Calls) (memory : SharedMemory) (kernel : Kernel)
      (free : world.objects id = none)
      (built : SharedMemory.construct world.kernel size calls = some (memory, kernel)) :
      Transition world (.construct id size calls) (world.finish id kernel (some
        { memory := memory
          requested := size
          object := world.kernel.space.nextObject }))
  | cleanupAborts (id : Id) (entry : Entry) (listed : world.objects id = some entry)
      (fails : SharedMemory.cleanup entry.memory world.kernel = none) :
      Transition world (.cleanup id) world.abort
  | cleanup (id : Id) (entry : Entry) (memory : SharedMemory) (kernel : Kernel)
      (listed : world.objects id = some entry)
      (cleaned : SharedMemory.cleanup entry.memory world.kernel = some (memory, kernel)) :
      Transition world (.cleanup id) (world.finish id kernel (some
        { entry with memory := memory }))
  | destroyAborts (id : Id) (entry : Entry) (listed : world.objects id = some entry)
      (fails : SharedMemory.cleanup entry.memory world.kernel = none) :
      Transition world (.destroy id) world.abort
  | destroy (id : Id) (entry : Entry) (memory : SharedMemory) (kernel : Kernel)
      (listed : world.objects id = some entry)
      (cleaned : SharedMemory.cleanup entry.memory world.kernel = some (memory, kernel)) :
      Transition world (.destroy id) (world.finish id kernel none)

theorem step_cases [DecidableEq Id] {next : World Id} {action : Action Id}
    (enabled : world.step action = some next) : Transition world action next := by
  unfold step at enabled
  split at enabled
  · contradiction
  · cases action with
    | construct id size calls =>
        simp only at enabled
        split at enabled
        · contradiction
        · rename_i unlisted
          have free := Option.not_isSome_iff_eq_none.mp unlisted
          split at enabled
          · rename_i fails
            cases enabled
            exact .constructAborts id size calls free fails
          · rename_i memory kernel built
            cases enabled
            exact .construct id size calls memory kernel free built
    | cleanup id =>
        simp only at enabled
        split at enabled
        · contradiction
        · rename_i entry listed
          split at enabled
          · rename_i fails
            cases enabled
            exact .cleanupAborts id entry listed fails
          · rename_i memory kernel cleaned
            cases enabled
            exact .cleanup id entry memory kernel listed cleaned
    | destroy id =>
        simp only at enabled
        split at enabled
        · contradiction
        · rename_i entry listed
          split at enabled
          · rename_i fails
            cases enabled
            exact .destroyAborts id entry listed fails
          · rename_i memory kernel cleaned
            cases enabled
            exact .destroy id entry memory kernel listed cleaned

theorem invariant_start (space : SharedSpace) : Invariant space (start space : World Id) :=
  { running := rfl
    sized := nofun
    blank := nofun
    apart := nofun
    descriptors := accounted_start _ fun _ _ ⟨_, _, listed, _⟩ => nomatch listed
    mappings := accounted_start _ fun _ _ ⟨_, _, listed, _⟩ => nomatch listed
    openedOlder := nofun
    mappedOlder := nofun }

theorem Invariant.entry_older (invariant : Invariant base world) {entry : Entry}
    (listed : world.objects id = some entry) (ready : entry.memory.ready = true) :
    entry.object < world.kernel.space.nextObject := by
  have owned := (invariant.descriptors.owned _ _).mp ⟨id, entry, listed, descriptor_ready ready⟩
  exact invariant.openedOlder _ _ owned.1

variable [DecidableEq Id]

/-- The objects stay apart when an entry gives way to one that shares its object with
none. -/
private theorem apart_finish {kernel : Kernel} {replacement : Option Entry}
    (invariant : Invariant base world)
    (alone : ∀ new, replacement = some new → ∀ other old, world.objects other = some old →
      ¬ Shares old new) :
    ∀ first second one two, (world.finish id kernel replacement).objects first = some one →
      (world.finish id kernel replacement).objects second = some two →
      one.memory.ready = true → two.memory.ready = true → one.object = two.object →
      first = second := by
  have symmetric : ∀ one two, Shares one two → Shares two one := by
    intro one two shares
    exact ⟨shares.2.1, shares.1, shares.2.2.symm⟩
  have apart : ∀ first second one two, world.objects first = some one →
      world.objects second = some two → Shares one two → first = second := by
    intro first second one two here there shares
    exact invariant.apart first second one two here there shares.1 shares.2.1 shares.2.2
  intro first second one two here there ready alsoReady same
  exact apart_update symmetric apart alone first second one two here there
    ⟨ready, alsoReady, same⟩

private theorem construct_preserves {size : Nat} {calls : Calls} {memory : SharedMemory}
    {kernel : Kernel} (invariant : Invariant base world)
    (acquires : world.Acquires (.construct id size calls)) (free : world.objects id = none)
    (returned : SharedMemory.construct world.kernel size calls = some (memory, kernel)) :
    Invariant base (world.finish id kernel (some
      { memory := memory
        requested := size
        object := world.kernel.space.nextObject })) := by
  obtain ⟨finds, truncated, positive, address, granted, unmapped⟩ := acquires
  obtain ⟨space, table, built⟩ := construct_ready finds truncated positive granted unmapped
  rw [built] at returned
  cases returned
  have newest : world.kernel.space.nextObject < space.nextObject := by
    apply space.tableOlder world.kernel.space.table.next
    rw [table]
    exact HandleTable.insert_find_next _ _
  have unopened : (world.kernel.space.table.next, world.kernel.space.nextObject) ∉
      world.kernel.opened := by
    intro logged
    exact Nat.lt_irrefl _ (invariant.openedOlder _ _ logged)
  have unlogged : (address.val, (⟨world.kernel.space.nextObject, size⟩ : Region)) ∉
      world.kernel.mapped := by
    intro logged
    exact Nat.lt_irrefl _ (invariant.mappedOlder _ _ logged).2
  have nobody : ∀ old, world.objects id = some old → False := by
    intro old present
    rw [free] at present
    contradiction
  refine ⟨⟨invariant.running, ?_, ?_, ?_, ?_, ?_⟩, ?_, ?_⟩
  · apply forall_update fun other entry _ => invariant.sized other entry
    intro entry same _
    cases same
    rfl
  · apply forall_update fun other entry _ => invariant.blank other entry
    intro entry same unready
    cases same
    contradiction
  · apply apart_finish invariant
    intro new same other old present shares
    cases same
    exact Nat.ne_of_lt (invariant.entry_older present shares.1) shares.2.2
  · simp only [finish_kernel, table, HandleTable.insert_find]
    apply invariant.descriptors.acquire world.kernel.space.table.next_free unopened
    exact held_insert (fun old present => (nobody old present).elim) (descriptor_ready rfl)
  · simp only [finish_kernel]
    apply invariant.mappings.acquire unmapped unlogged
    exact held_insert (fun old present => (nobody old present).elim) (mapping_ready rfl)
  · intro number object logged
    rcases List.mem_append.mp logged with earlier | last
    · exact Nat.lt_trans (invariant.openedOlder _ _ earlier) newest
    · cases List.mem_singleton.mp last
      exact newest
  · intro place region logged
    rcases List.mem_append.mp logged with earlier | last
    · have older := invariant.mappedOlder _ _ earlier
      exact ⟨older.1, Nat.lt_trans older.2 newest⟩
    · cases List.mem_singleton.mp last
      exact ⟨address.property.2, newest⟩

private theorem finish_blank {kernel : Kernel} {replacement : Option Entry}
    (invariant : Invariant base world)
    (after : ∀ new, replacement = some new → new.memory = SharedMemory.blank)
    (descriptors : Accounted base.table.find kernel.space.table.find world.kernel.opened
      kernel.closed (Held (Function.update world.objects id replacement) descriptor))
    (mappings : Accounted (fun _ => none) kernel.mappings world.kernel.mapped kernel.unmapped
      (Held (Function.update world.objects id replacement) mapping))
    (opened : kernel.opened = world.kernel.opened) (mapped : kernel.mapped = world.kernel.mapped)
    (older : kernel.space.nextObject = world.kernel.space.nextObject) :
    Invariant base (world.finish id kernel replacement) := by
  have unready : ∀ new, replacement = some new → new.memory.ready = false := by
    intro new same
    rw [after new same]
    rfl
  refine ⟨⟨invariant.running, ?_, ?_, ?_, ?_, ?_⟩, ?_, ?_⟩
  · apply forall_update fun other entry _ => invariant.sized other entry
    intro new same isReady
    rw [unready new same] at isReady
    contradiction
  · apply forall_update fun other entry _ => invariant.blank other entry
    intro new same _
    exact after new same
  · apply apart_finish invariant
    intro new same other old _ shares
    have ready := shares.2.1
    rw [unready new same] at ready
    contradiction
  · simp only [finish_kernel, finish_objects, opened]
    exact descriptors
  · simp only [finish_kernel, finish_objects, mapped]
    exact mappings
  · simp only [finish_kernel, opened, older]
    exact invariant.openedOlder
  · simp only [finish_kernel, mapped, older]
    exact invariant.mappedOlder

omit [DecidableEq Id] in
private theorem cleanup_ready_entry {entry : Entry} (invariant : Invariant base world)
    (listed : world.objects id = some entry) (ready : entry.memory.ready = true) :
    ∃ space, space.table = world.kernel.space.table.remove entry.memory.handle ∧
      space.nextObject = world.kernel.space.nextObject ∧
      cleanup entry.memory world.kernel = some (SharedMemory.blank,
        { world.kernel with
          space := space
          mappings := Function.update world.kernel.mappings entry.memory.address none
          unmapped := world.kernel.unmapped ++
            [(entry.memory.address, ⟨entry.object, entry.memory.size⟩)]
          closed := world.kernel.closed ++ [(entry.memory.handle, entry.object)] }) := by
  have handle := invariant.descriptors.found ⟨id, entry, listed, descriptor_ready ready⟩
  have place := invariant.mappings.found ⟨id, entry, listed, mapping_ready ready⟩
  have logged := (invariant.mappings.owned _ _).mp ⟨id, entry, listed, mapping_ready ready⟩
  have valid := (invariant.mappedOlder _ _ logged.1).1
  exact cleanup_ready ready handle place rfl valid

/-- The release of an object, whose entry then keeps the members or goes away. -/
private theorem release_preserves {entry : Entry} {memory : SharedMemory} {kernel : Kernel}
    {replacement : Option Entry} (invariant : Invariant base world)
    (listed : world.objects id = some entry)
    (cleaned : cleanup entry.memory world.kernel = some (memory, kernel))
    (after : ∀ new, replacement = some new → new.memory = memory) :
    Invariant base (world.finish id kernel replacement) := by
  cases ready : entry.memory.ready with
  | false =>
      rw [cleanup_blank _ ready] at cleaned
      cases cleaned
      have blanked := invariant.blank id entry listed ready
      have before : ∀ old, world.objects id = some old → old.memory.ready = false := by
        intro old present
        rw [listed] at present
        cases present
        exact ready
      have unready : ∀ new, replacement = some new → new.memory.ready = false := by
        intro new same
        rw [after new same]
        exact ready
      apply finish_blank invariant _ _ _ rfl rfl rfl
      · intro new same
        rw [after new same, blanked]
      · exact invariant.descriptors.congr (held_update
          (fun old present => descriptor_unready (before old present))
          (fun new same => descriptor_unready (unready new same)))
      · exact invariant.mappings.congr (held_update
          (fun old present => mapping_unready (before old present))
          (fun new same => mapping_unready (unready new same)))
  | true =>
      obtain ⟨space, table, older, released⟩ := cleanup_ready_entry invariant listed ready
      rw [released] at cleaned
      cases cleaned
      have unready : ∀ new, replacement = some new → new.memory.ready = false := by
        intro new same
        rw [after new same]
        rfl
      refine finish_blank invariant after ?_ ?_ ?_ ?_ older
      · simp only [table, HandleTable.remove_find]
        apply invariant.descriptors.giveBack ⟨id, entry, listed, descriptor_ready ready⟩
        apply held_erase listed (descriptor_ready ready)
        · exact fun new same => descriptor_unready (unready new same)
        · intro other found object present holds
          obtain ⟨isReady, named⟩ := ready_of_descriptor holds
          apply invariant.apart other id found entry present listed isReady ready
          rw [named]
          exact invariant.descriptors.sole_holder present listed holds (descriptor_ready ready)
      · apply invariant.mappings.giveBack ⟨id, entry, listed, mapping_ready ready⟩
        apply held_erase listed (mapping_ready ready)
        · exact fun new same => mapping_unready (unready new same)
        · intro other found region present holds
          obtain ⟨isReady, named⟩ := ready_of_mapping holds
          apply invariant.apart other id found entry present listed isReady ready
          rw [named]
          exact congrArg Region.object
            (invariant.mappings.sole_holder present listed holds (mapping_ready ready))
      · rfl
      · rfl

omit [DecidableEq Id] in
private theorem cleanup_returns {entry : Entry} (invariant : Invariant base world)
    (listed : world.objects id = some entry) :
    ∃ memory kernel, cleanup entry.memory world.kernel = some (memory, kernel) := by
  cases ready : entry.memory.ready with
  | false => exact ⟨_, _, cleanup_blank _ ready⟩
  | true =>
      obtain ⟨space, _, _, released⟩ := cleanup_ready_entry invariant listed ready
      exact ⟨_, _, released⟩

theorem invariant_step (action : Action Id) (next : World Id) (invariant : Invariant base world)
    (acquires : world.Acquires action) (enabled : world.step action = some next) :
    Invariant base next := by
  cases step_cases enabled with
  | constructAborts id size calls free fails =>
      obtain ⟨finds, truncated, positive, address, granted, unmapped⟩ := acquires
      obtain ⟨space, _, built⟩ := construct_ready finds truncated positive granted unmapped
      rw [built] at fails
      contradiction
  | construct id size calls memory kernel free built =>
      exact construct_preserves invariant acquires free built
  | cleanupAborts id entry listed fails =>
      obtain ⟨memory, kernel, cleaned⟩ := cleanup_returns invariant listed
      rw [cleaned] at fails
      contradiction
  | cleanup id entry memory kernel listed cleaned =>
      apply release_preserves invariant listed cleaned
      intro new same
      cases same
      rfl
  | destroyAborts id entry listed fails =>
      obtain ⟨memory, kernel, cleaned⟩ := cleanup_returns invariant listed
      rw [cleaned] at fails
      contradiction
  | destroy id entry memory kernel listed cleaned =>
      exact release_preserves invariant listed cleaned nofun

/-! ### A constructor that does not get its resources -/

omit [DecidableEq Id] in
private theorem aborted_breaks (world : World Id) : ¬ AllOrNothing base world.abort := by
  intro accounts
  exact Bool.noConfusion accounts.running

/-- The backing whose size could not be set is open and nobody holds it. -/
private theorem untruncated_breaks {size : Nat} {space : SharedSpace} {kernel : Kernel}
    (invariant : Invariant base world)
    (table : space.table = world.kernel.space.table.insert world.kernel.space.nextObject)
    (left : kernel.space = space)
    (logged : kernel.opened = world.kernel.opened ++
      [(world.kernel.space.table.next, world.kernel.space.nextObject)]) :
    ¬ AllOrNothing base (world.finish id kernel (some
      { memory := SharedMemory.blank
        requested := size
        object := world.kernel.space.nextObject })) := by
  intro accounts
  have open_ : kernel.space.table.find world.kernel.space.table.next =
      some world.kernel.space.nextObject := by
    rw [left, table]
    exact HandleTable.insert_find_next _ _
  have listed : (world.kernel.space.table.next, world.kernel.space.nextObject) ∈
      kernel.opened := by
    rw [logged]
    simp
  obtain ⟨other, entry, present, holds⟩ := (accounts.descriptors.owned _ _).mpr ⟨listed, open_⟩
  obtain ⟨ready, named⟩ := ready_of_descriptor holds
  by_cases same : other = id
  · rw [finish_objects, same, Function.update_self] at present
    cases present
    contradiction
  · rw [finish_objects, Function.update_of_ne same] at present
    have older := invariant.entry_older present ready
    rw [named] at older
    exact Nat.lt_irrefl _ older

/-- Without its resources a constructor aborts or forgets its descriptor. -/
theorem unacquired_breaks (action : Action Id) (next : World Id)
    (invariant : Invariant base world) (fails : ¬ world.Acquires action)
    (enabled : world.step action = some next) : ¬ AllOrNothing base next := by
  cases step_cases enabled with
  | constructAborts id size calls free _ => exact aborted_breaks world
  | cleanupAborts id entry listed _ => exact absurd trivial fails
  | cleanup id entry memory kernel listed cleaned => exact absurd trivial fails
  | destroyAborts id entry listed _ => exact absurd trivial fails
  | destroy id entry memory kernel listed cleaned => exact absurd trivial fails
  | construct id size calls memory kernel free returned =>
      by_cases finds : FindsName calls.toEnvironment world.kernel.space
      · by_cases truncated : CL_TEMP_FAILURE_RETRY calls.ftruncate = -1
        · obtain ⟨space, table, built⟩ := construct_untruncated size finds truncated
          rw [built] at returned
          cases returned
          exact untruncated_breaks invariant table rfl rfl
        · have unmapped : SharedMemory.construct world.kernel size calls = none := by
            apply construct_unmapped finds truncated
            intro maps
            exact fails ⟨finds, truncated, maps⟩
          rw [unmapped] at returned
          contradiction
      · rw [construct_without_name size finds] at returned
        contradiction

/-! ### Every run -/

/-- The accounts hold in every state of a run exactly when each of its constructors gets
a descriptor, sets its size and maps it. -/
theorem all_or_nothing_iff (space : SharedSpace) (actions : List (Action Id)) :
    Always step (AllOrNothing space) (start space) actions ↔
      Respects step Acquires (start space : World Id) actions :=
  always_iff_respects (fun _ => True) (Invariant space)
    (fun _ action next invariant _ acquires => invariant_step action next invariant acquires)
    (fun _ invariant => invariant.toAllOrNothing)
    (fun _ action next invariant => unacquired_breaks action next invariant)
    (invariant_start space) (fun _ _ => trivial)

end Steps

def emptySpace : SharedSpace :=
  { names := fun _ => none
    table := .ofNumbers [] fun _ => 0
    nextObject := 0
    namesOlder := nofun
    tableOlder := nofun }

def quietCalls : Calls :=
  { rand := fun _ => 0
    refusal := fun _ => none
    errno := fun _ => .other 0
    ftruncate := .settled ⟨0, .other 0⟩ (by decide)
    mmap := some ⟨4096, by decide⟩ }

/-- An object of no bytes: its descriptor is opened and sized, and mmap fails. -/
theorem zero_size_aborts :
    (run step (start emptySpace) [.construct () 0 quietCalls]).map World.aborted = some true ∧
      ¬ Always step (AllOrNothing emptySpace) (start emptySpace)
        [.construct () 0 quietCalls] := by
  have finds : FindsName quietCalls.toEnvironment emptySpace :=
    ⟨0, by decide, rfl, rfl, nofun⟩
  have failed : construct (start emptySpace : World Unit).kernel 0 quietCalls = none := by
    apply construct_unmapped finds (by decide)
    intro maps
    exact maps.1 rfl
  have stepped : step (start emptySpace) (.construct () 0 quietCalls) =
      some (start emptySpace : World Unit).abort := by
    unfold step
    simp only [failed]
    rfl
  constructor
  · rw [run_one stepped]
    rfl
  · intro always
    exact absurd (always.final (run_one stepped)).running (by simp [abort])

end World

end SharedMemory

end CoreLib
