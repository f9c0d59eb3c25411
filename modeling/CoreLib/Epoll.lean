/-
The descriptor table of a process and one epoll set.

The kernel gives out the lowest free number.  A registration belongs to the open
file behind its number, which has no other number here: closing the number drops it.
`epoll_ctl` fails on a closed number, on adding a number that is registered and on
deleting one that is not, and the library ignores these failures.  What is added are
sockets, pipes and timers, which epoll can wait for.
-/

import CoreLib.Foundation.Registry

set_option autoImplicit false

namespace CoreLib

open Foundation

structure Epoll (Source : Type) where
  openNumbers : List Int
  interest : Int → Option Source

namespace Epoll

variable {Source : Type} (kernel : Epoll Source)

def allocate : Int × Epoll Source :=
  (lowestFree kernel.openNumbers,
    { kernel with openNumbers := lowestFree kernel.openNumbers :: kernel.openNumbers })

def close (desc : Int) : Epoll Source :=
  { openNumbers := kernel.openNumbers.erase desc
    interest := Function.update kernel.interest desc none }

/-- `LooperSource_UpdateEpollSource`, with EPOLL_CTL_ADD or EPOLL_CTL_DEL. -/
def control (shouldAdd : Bool) (desc : Int) (data : Source) : Epoll Source :=
  if desc ∉ kernel.openNumbers then kernel
  else if shouldAdd then
    if (kernel.interest desc).isNone then
      { kernel with interest := Function.update kernel.interest desc (some data) }
    else kernel
  else { kernel with interest := Function.update kernel.interest desc none }

variable {kernel}

theorem control_add {desc : Int} (opened : desc ∈ kernel.openNumbers)
    (free : kernel.interest desc = none) (data : Source) :
    kernel.control true desc data =
      { kernel with interest := Function.update kernel.interest desc (some data) } := by
  unfold control
  rw [if_neg (not_not.mpr opened), if_pos rfl, free]
  rfl

theorem control_delete {desc : Int} (opened : desc ∈ kernel.openNumbers) (data : Source) :
    kernel.control false desc data =
      { kernel with interest := Function.update kernel.interest desc none } := by
  unfold control
  rw [if_neg (not_not.mpr opened)]
  rfl

theorem control_closed {desc : Int} (closed : desc ∉ kernel.openNumbers) (shouldAdd : Bool)
    (data : Source) : kernel.control shouldAdd desc data = kernel :=
  if_pos closed

/-- An addition registers the source under its open number or changes nothing. -/
theorem control_add_cases (kernel : Epoll Source) (desc : Int) (data : Source) :
    kernel.control true desc data = kernel ∨
      (desc ∈ kernel.openNumbers ∧ (kernel.control true desc data).interest =
        Function.update kernel.interest desc (some data)) := by
  by_cases opened : desc ∈ kernel.openNumbers
  · cases held : kernel.interest desc with
    | none =>
        rw [control_add opened held]
        exact Or.inr ⟨opened, rfl⟩
    | some other =>
        apply Or.inl
        unfold control
        rw [if_neg (not_not.mpr opened), if_pos rfl, held]
        rfl
  · exact Or.inl (control_closed opened true data)

/-- A deletion clears the entry of an open number or changes nothing. -/
theorem control_delete_cases (kernel : Epoll Source) (desc : Int) (data : Source) :
    (desc ∉ kernel.openNumbers ∧ kernel.control false desc data = kernel) ∨
      (desc ∈ kernel.openNumbers ∧ (kernel.control false desc data).interest =
        Function.update kernel.interest desc none) := by
  by_cases opened : desc ∈ kernel.openNumbers
  · rw [control_delete opened data]
    exact Or.inr ⟨opened, rfl⟩
  · exact Or.inl ⟨opened, control_closed opened false data⟩

theorem control_openNumbers (kernel : Epoll Source) (shouldAdd : Bool) (desc : Int)
    (data : Source) : (kernel.control shouldAdd desc data).openNumbers = kernel.openNumbers := by
  unfold control
  split
  · rfl
  · split
    · split <;> rfl
    · rfl

end Epoll

end CoreLib
