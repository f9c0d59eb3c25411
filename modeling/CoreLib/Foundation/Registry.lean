/-
A keyed table that mirrors a set of owners.

`Mirrors owner key table` says that the table holds one entry for each owner, under
the key of that owner, and no other entry.  The rules say what becomes of it when
an entry is written or deleted: the table follows the owners as long as no two of
them share a key.  `Within owner key table` is the half of it that survives shared
keys: entries of owners and no others.  `lowestFree` is the allocator that hands out
keys.
-/

import Mathlib

set_option autoImplicit false

namespace CoreLib.Foundation

universe u v

section Table

variable {Key : Type u} {Owner : Type v} [DecidableEq Key]

def Mirrors (owner : Owner → Prop) (key : Owner → Key) (table : Key → Option Owner) : Prop :=
  ∀ number member, table number = some member ↔ owner member ∧ key member = number

variable {owner : Owner → Prop} {key : Owner → Key} {table : Key → Option Owner}

omit [DecidableEq Key] in
theorem mirrors_empty (nobody : ∀ member, ¬ owner member) : Mirrors owner key fun _ => none :=
  fun _ member => ⟨nofun, fun ⟨held, _⟩ => absurd held (nobody member)⟩

omit [DecidableEq Key] in
theorem Mirrors.congr {other : Owner → Prop} (mirrors : Mirrors owner key table)
    (same : ∀ member, owner member ↔ other member) : Mirrors other key table := by
  intro number member
  rw [mirrors number member, same]

omit [DecidableEq Key] in
theorem Mirrors.rekey {other : Owner → Key} (mirrors : Mirrors owner key table)
    (same : ∀ member, owner member → key member = other member) : Mirrors owner other table := by
  intro number member
  rw [mirrors number member]
  constructor
  · rintro ⟨held, equal⟩
    exact ⟨held, (same member held).symm.trans equal⟩
  · rintro ⟨held, equal⟩
    exact ⟨held, (same member held).trans equal⟩

omit [DecidableEq Key] in
theorem Mirrors.injective (mirrors : Mirrors owner key table) {first second : Owner}
    (held : owner first) (also : owner second) (same : key first = key second) :
    first = second := by
  have here := (mirrors (key first) first).mpr ⟨held, rfl⟩
  have there := (mirrors (key first) second).mpr ⟨also, same.symm⟩
  rw [here] at there
  exact Option.some.inj there

omit [DecidableEq Key] in
theorem Mirrors.free (mirrors : Mirrors owner key table) {number : Key}
    (unused : ∀ member, owner member → key member ≠ number) : table number = none := by
  cases held : table number with
  | none => rfl
  | some member =>
      obtain ⟨owned, same⟩ := (mirrors number member).mp held
      exact absurd same (unused member owned)

/-- A new owner may write its entry when no owner has its key. -/
theorem Mirrors.insert (mirrors : Mirrors owner key table) (added : Owner)
    (unused : ∀ member, owner member → key member ≠ key added) :
    Mirrors (fun member => member = added ∨ owner member) key
      (Function.update table (key added) (some added)) := by
  intro number member
  by_cases same : number = key added
  · subst number
    rw [Function.update_self]
    constructor
    · intro found
      cases found
      exact ⟨Or.inl rfl, rfl⟩
    · rintro ⟨rfl | held, equal⟩
      · rfl
      · exact absurd equal (unused member held)
  · rw [Function.update_of_ne same, mirrors number member]
    constructor
    · rintro ⟨held, equal⟩
      exact ⟨Or.inr held, equal⟩
    · rintro ⟨rfl | held, equal⟩
      · exact absurd equal.symm same
      · exact ⟨held, equal⟩

/-- Deleting an entry removes exactly the owners with that key. -/
theorem Mirrors.erase (mirrors : Mirrors owner key table) (deleted : Key) :
    Mirrors (fun member => owner member ∧ key member ≠ deleted) key
      (Function.update table deleted none) := by
  intro number member
  by_cases same : number = deleted
  · subst number
    rw [Function.update_self]
    constructor
    · nofun
    · rintro ⟨⟨_, different⟩, equal⟩
      exact absurd equal different
  · rw [Function.update_of_ne same, mirrors number member]
    constructor
    · rintro ⟨held, equal⟩
      exact ⟨⟨held, by rw [equal]; exact same⟩, equal⟩
    · rintro ⟨⟨held, _⟩, equal⟩
      exact ⟨held, equal⟩

/-! ### Entries of owners only -/

/-- Every entry belongs to an owner and stands under the key that the owner has. -/
def Within (owner : Owner → Prop) (key : Owner → Option Key) (table : Key → Option Owner) :
    Prop :=
  ∀ number member, table number = some member → owner member ∧ key member = some number

section Within

variable {owner : Owner → Prop} {key : Owner → Option Key} {table : Key → Option Owner}

omit [DecidableEq Key] in
theorem within_empty (owner : Owner → Prop) (key : Owner → Option Key) :
    Within owner key fun _ => none :=
  fun _ _ impossible => nomatch impossible

omit [DecidableEq Key] in
theorem Within.mono {other : Owner → Prop} (within : Within owner key table)
    (implied : ∀ member, owner member → other member) : Within other key table := by
  intro number member found
  obtain ⟨held, same⟩ := within number member found
  exact ⟨implied member held, same⟩

omit [DecidableEq Key] in
theorem Within.rekey {other : Owner → Option Key} (within : Within owner key table)
    (kept : ∀ member number, key member = some number → other member = some number) :
    Within owner other table := by
  intro number member found
  obtain ⟨held, same⟩ := within number member found
  exact ⟨held, kept member number same⟩

/-- Writing the entry of a new owner may overwrite that of another. -/
theorem Within.write (within : Within owner key table) {added : Owner} {number : Key}
    (own : key added = some number) :
    Within (fun member => member = added ∨ owner member) key
      (Function.update table number (some added)) := by
  intro place member found
  by_cases same : place = number
  · rw [same, Function.update_self] at found
    cases found
    rw [same]
    exact ⟨Or.inl rfl, own⟩
  · rw [Function.update_of_ne same] at found
    obtain ⟨held, equal⟩ := within place member found
    exact ⟨Or.inr held, equal⟩

/-- Deleting under the key of one owner leaves no entry of it. -/
theorem Within.delete (within : Within owner key table) {deleted : Owner} {number : Key}
    (own : key deleted = some number) :
    Within (fun member => member ≠ deleted ∧ owner member) key
      (Function.update table number none) := by
  intro place member found
  by_cases same : place = number
  · rw [same, Function.update_self] at found
    contradiction
  · rw [Function.update_of_ne same] at found
    obtain ⟨held, equal⟩ := within place member found
    refine ⟨⟨?_, held⟩, equal⟩
    intro gone
    rw [gone, own] at equal
    exact same (Option.some.inj equal).symm

omit [DecidableEq Key] in
theorem Within.keyless (within : Within owner key table) {absent : Owner}
    (without : key absent = none) :
    Within (fun member => member ≠ absent ∧ owner member) key table := by
  intro number member found
  obtain ⟨held, equal⟩ := within number member found
  refine ⟨⟨?_, held⟩, equal⟩
  intro gone
  rw [gone, without] at equal
  contradiction

end Within

end Table

def lowestFree (used : List Int) : Int :=
  match (List.range (used.length + 1)).find? fun number : Nat => decide ((number : Int) ∉ used) with
  | some number => number
  | none => 0

private theorem exists_free (used : List Int) :
    ∃ number ∈ List.range (used.length + 1), (number : Int) ∉ used := by
  apply Classical.byContradiction
  intro full
  have covered : (List.range (used.length + 1)).map Int.ofNat ⊆ used := by
    intro number member
    obtain ⟨index, listed, same⟩ := List.mem_map.mp member
    subst number
    apply Classical.byContradiction
    intro unused
    exact full ⟨index, listed, unused⟩
  have distinct : ((List.range (used.length + 1)).map Int.ofNat).Nodup :=
    List.nodup_range.map fun _ _ => Int.ofNat.inj
  have short := (List.subperm_of_subset distinct covered).length_le
  rw [List.length_map, List.length_range] at short
  omega

theorem lowestFree_spec (used : List Int) : 0 ≤ lowestFree used ∧ lowestFree used ∉ used := by
  unfold lowestFree
  cases found : (List.range (used.length + 1)).find? fun number : Nat => decide ((number : Int) ∉ used) with
  | some number =>
      have unused := List.find?_some found
      exact ⟨Int.natCast_nonneg number, of_decide_eq_true unused⟩
  | none =>
      obtain ⟨number, listed, unused⟩ := exists_free used
      have used_ := List.find?_eq_none.mp found number listed
      exact absurd (decide_eq_true unused) used_

theorem lowestFree_least {used : List Int} {number : Int} (natural : 0 ≤ number)
    (unused : number ∉ used) : lowestFree used ≤ number := by
  unfold lowestFree
  cases found : (List.range (used.length + 1)).find? fun number : Nat => decide ((number : Int) ∉ used) with
  | some first =>
      have minimal := (List.find?_range_eq_some.mp found).2.2
      apply Int.not_lt.mp
      intro above
      change number < (first : Int) at above
      have earlier := minimal number.toNat (by omega)
      rw [Int.toNat_of_nonneg natural] at earlier
      simp [unused] at earlier
  | none => exact natural

end CoreLib.Foundation
