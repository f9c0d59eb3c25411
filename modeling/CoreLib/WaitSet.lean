/-
The source set of WaitSet.cpp.

A wait set is the set `_sources` together with the kernel object behind `_handle`.
`addSource` and `removeSource` are the same on every platform; what differs is
`LooperSource::updateInWaitSetHandle`, which is the parameter `update` here.
-/

import Mathlib

set_option autoImplicit false

namespace CoreLib

structure WaitSet (Source Kernel : Type) where
  sources : List Source
  kernel : Kernel
  distinct : sources.Nodup

namespace WaitSet

variable {Source Kernel : Type} [DecidableEq Source]

def empty (kernel : Kernel) : WaitSet Source Kernel :=
  { sources := []
    kernel := kernel
    distinct := List.nodup_nil }

def addSource (update : Source → Bool → Kernel → Kernel) (set : WaitSet Source Kernel)
    (source : Source) : Bool × WaitSet Source Kernel :=
  if present : source ∈ set.sources then (false, set)
  else
    (true,
      { sources := source :: set.sources
        kernel := update source true set.kernel
        distinct := List.nodup_cons.mpr ⟨present, set.distinct⟩ })

def removeSource (update : Source → Bool → Kernel → Kernel) (set : WaitSet Source Kernel)
    (source : Source) : Bool × WaitSet Source Kernel :=
  if source ∈ set.sources then
    (true,
      { sources := set.sources.erase source
        kernel := update source false set.kernel
        distinct := set.distinct.erase source })
  else (false, set)

variable {update : Source → Bool → Kernel → Kernel} {set : WaitSet Source Kernel}
  {source other : Source}

theorem addSource_cases (update : Source → Bool → Kernel → Kernel)
    (set : WaitSet Source Kernel) (source : Source) :
    (source ∈ set.sources ∧ set.addSource update source = (false, set)) ∨
      (source ∉ set.sources ∧ (set.addSource update source).1 = true ∧
        (set.addSource update source).2.sources = source :: set.sources ∧
        (set.addSource update source).2.kernel = update source true set.kernel) := by
  unfold addSource
  by_cases present : source ∈ set.sources
  · rw [dif_pos present]
    exact Or.inl ⟨present, rfl⟩
  · rw [dif_neg present]
    exact Or.inr ⟨present, rfl, rfl, rfl⟩

theorem removeSource_cases (update : Source → Bool → Kernel → Kernel)
    (set : WaitSet Source Kernel) (source : Source) :
    (source ∉ set.sources ∧ set.removeSource update source = (false, set)) ∨
      (source ∈ set.sources ∧ (set.removeSource update source).1 = true ∧
        (set.removeSource update source).2.sources = set.sources.erase source ∧
        (set.removeSource update source).2.kernel = update source false set.kernel) := by
  unfold removeSource
  by_cases present : source ∈ set.sources
  · rw [if_pos present]
    exact Or.inr ⟨present, rfl, rfl, rfl⟩
  · rw [if_neg present]
    exact Or.inl ⟨present, rfl⟩

theorem addSource_both {Other : Type} {twin : WaitSet Source Other}
    (same : twin.sources = set.sources) (update : Source → Bool → Kernel → Kernel)
    (updateTwin : Source → Bool → Other → Other) (source : Source) :
    (source ∈ set.sources ∧ set.addSource update source = (false, set) ∧
        twin.addSource updateTwin source = (false, twin)) ∨
      (source ∉ set.sources ∧
        (set.addSource update source).2.sources = source :: set.sources ∧
        (set.addSource update source).2.kernel = update source true set.kernel ∧
        (twin.addSource updateTwin source).2.sources = source :: set.sources ∧
        (twin.addSource updateTwin source).2.kernel = updateTwin source true twin.kernel) := by
  rcases addSource_cases update set source with ⟨present, unchanged⟩ | ⟨absent, _, sources, kernel⟩
  · rcases addSource_cases updateTwin twin source with ⟨_, also⟩ | ⟨missing, _⟩
    · exact Or.inl ⟨present, unchanged, also⟩
    · rw [same] at missing
      exact absurd present missing
  · rcases addSource_cases updateTwin twin source with ⟨found, _⟩ | ⟨_, _, twins, twinKernel⟩
    · rw [same] at found
      exact absurd found absent
    · rw [same] at twins
      exact Or.inr ⟨absent, sources, kernel, twins, twinKernel⟩

theorem removeSource_both {Other : Type} {twin : WaitSet Source Other}
    (same : twin.sources = set.sources) (update : Source → Bool → Kernel → Kernel)
    (updateTwin : Source → Bool → Other → Other) (source : Source) :
    (source ∉ set.sources ∧ set.removeSource update source = (false, set) ∧
        twin.removeSource updateTwin source = (false, twin)) ∨
      (source ∈ set.sources ∧
        (set.removeSource update source).2.sources = set.sources.erase source ∧
        (set.removeSource update source).2.kernel = update source false set.kernel ∧
        (twin.removeSource updateTwin source).2.sources = set.sources.erase source ∧
        (twin.removeSource updateTwin source).2.kernel = updateTwin source false twin.kernel) := by
  rcases removeSource_cases update set source with
    ⟨absent, unchanged⟩ | ⟨present, _, sources, kernel⟩
  · rcases removeSource_cases updateTwin twin source with ⟨_, also⟩ | ⟨found, _⟩
    · exact Or.inl ⟨absent, unchanged, also⟩
    · rw [same] at found
      exact absurd found absent
  · rcases removeSource_cases updateTwin twin source with ⟨missing, _⟩ | ⟨_, _, twins, twinKernel⟩
    · rw [same] at missing
      exact absurd present missing
    · rw [same] at twins
      exact Or.inr ⟨present, sources, kernel, twins, twinKernel⟩

theorem mem_addSource :
    other ∈ (set.addSource update source).2.sources ↔ other = source ∨ other ∈ set.sources := by
  rcases addSource_cases update set source with ⟨present, same⟩ | ⟨_, _, sources, _⟩
  · rw [same]
    constructor
    · exact Or.inr
    · rintro (equal | member)
      · rw [equal]
        exact present
      · exact member
  · rw [sources, List.mem_cons]

theorem mem_removeSource :
    other ∈ (set.removeSource update source).2.sources ↔
      other ≠ source ∧ other ∈ set.sources := by
  rcases removeSource_cases update set source with ⟨absent, same⟩ | ⟨_, _, sources, _⟩
  · rw [same]
    constructor
    · intro member
      refine ⟨?_, member⟩
      intro equal
      rw [equal] at member
      exact absent member
    · exact And.right
  · rw [sources, set.distinct.mem_erase_iff]

end WaitSet

end CoreLib
