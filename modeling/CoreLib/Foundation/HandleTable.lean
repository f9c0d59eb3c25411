/-
The descriptor table of one process.

A table assigns an open file to each open number.  Opening hands out the lowest
number that is not in use, closing frees a number.  The invariants that make the two
operations meaningful are fields of the table, so every table that can be built has
them.
-/

import CoreLib.Foundation.Registry

set_option autoImplicit false

namespace CoreLib.Foundation

universe u

structure HandleTable (File : Type u) where
  numbers : List Int
  find : Int → Option File
  tracks : ∀ number, number ∈ numbers ↔ (find number).isSome = true
  natural : ∀ number ∈ numbers, 0 ≤ number

namespace HandleTable

variable {File : Type u}

def ofNumbers (opened : List Nat) (file : Int → File) : HandleTable File :=
  { numbers := opened.map Int.ofNat
    find := fun number => if number ∈ opened.map Int.ofNat then some (file number) else none
    tracks := by
      intro number
      split
      · rename_i member
        exact iff_of_true member rfl
      · rename_i absent
        exact iff_of_false absent nofun
    natural := by
      intro number member
      obtain ⟨index, _, same⟩ := List.mem_map.mp member
      rw [← same]
      exact Int.natCast_nonneg index }

variable (table : HandleTable File)

/-- The number that the next open call returns. -/
def next : Int := lowestFree table.numbers

theorem next_nonneg : 0 ≤ table.next := (lowestFree_spec table.numbers).1

theorem next_free : table.find table.next = none := by
  have unused : ¬ (table.find table.next).isSome = true := by
    rw [← table.tracks]
    exact (lowestFree_spec table.numbers).2
  exact Option.not_isSome_iff_eq_none.mp unused

theorem find_nonneg {number : Int} {file : File} (found : table.find number = some file) :
    0 ≤ number := by
  apply table.natural
  rw [table.tracks, found]
  rfl

theorem find_negative {number : Int} (negative : number < 0) : table.find number = none := by
  cases found : table.find number with
  | none => rfl
  | some file =>
      have natural := table.find_nonneg found
      omega

/-- The number 0 is given out exactly while it is free. -/
theorem next_eq_zero_iff : table.next = 0 ↔ table.find 0 = none := by
  constructor
  · intro zero
    rw [← zero]
    exact table.next_free
  · intro free
    have unused : 0 ∉ table.numbers := by
      rw [table.tracks, free]
      exact nofun
    exact Int.le_antisymm (lowestFree_least (Int.le_refl 0) unused) table.next_nonneg

def insert (file : File) : HandleTable File :=
  { numbers := table.next :: table.numbers
    find := Function.update table.find table.next (some file)
    tracks := by
      intro number
      by_cases same : number = table.next
      · simp [same]
      · simp [same, table.tracks]
    natural := by
      intro number member
      rcases List.mem_cons.mp member with newest | earlier
      · rw [newest]
        exact table.next_nonneg
      · exact table.natural number earlier }

def remove (number : Int) : HandleTable File :=
  { numbers := table.numbers.filter (· ≠ number)
    find := Function.update table.find number none
    tracks := by
      intro other
      by_cases same : other = number
      · simp [same]
      · simp [same, table.tracks]
    natural := fun other member => table.natural other (List.mem_filter.mp member).1 }

@[simp] theorem insert_find (file : File) :
    (table.insert file).find = Function.update table.find table.next (some file) := rfl

@[simp] theorem remove_find (number : Int) :
    (table.remove number).find = Function.update table.find number none := rfl

theorem insert_find_next (file : File) : (table.insert file).find table.next = some file := by
  simp

theorem insert_find_of_some {file old : File} {number : Int}
    (found : table.find number = some old) : (table.insert file).find number = some old := by
  have different : number ≠ table.next := by
    intro same
    rw [same, table.next_free] at found
    contradiction
  simp [different, found]

end HandleTable

end CoreLib.Foundation
