/-
A name space with exclusive creation.

Names are claimed for an entry and released again.  Claiming fails on a name that
exists, releasing fails on one that does not.
-/

import Mathlib

set_option autoImplicit false

namespace CoreLib.Foundation

universe u v

variable {Name : Type u} {Entry : Type v} [DecidableEq Name]

def claim (names : Name → Option Entry) (name : Name) (entry : Entry) :
    Option (Name → Option Entry) :=
  if (names name).isSome then none else some (Function.update names name (some entry))

def release (names : Name → Option Entry) (name : Name) : Option (Name → Option Entry) :=
  if (names name).isSome then some (Function.update names name none) else none

variable {names claimed : Name → Option Entry} {name : Name} {entry : Entry}

theorem claim_of_free (free : names name = none) :
    claim names name entry = some (Function.update names name (some entry)) := by
  simp [claim, free]

theorem claim_of_taken {old : Entry} (taken : names name = some old) :
    claim names name entry = none := by
  simp [claim, taken]

theorem claim_eq_some (claims : claim names name entry = some claimed) :
    names name = none ∧ claimed = Function.update names name (some entry) := by
  cases held : names name with
  | some old =>
      rw [claim_of_taken held] at claims
      contradiction
  | none =>
      rw [claim_of_free held] at claims
      exact ⟨rfl, (Option.some.inj claims).symm⟩

theorem claim_entries (claims : claim names name entry = some claimed) {other : Name}
    {held : Entry} (found : claimed other = some held) : held = entry ∨ names other = some held := by
  rw [(claim_eq_some claims).2] at found
  by_cases same : other = name
  · rw [same, Function.update_self] at found
    exact Or.inl (Option.some.inj found).symm
  · rw [Function.update_of_ne same] at found
    exact Or.inr found

theorem release_of_taken {old : Entry} (taken : names name = some old) :
    release names name = some (Function.update names name none) := by
  simp [release, taken]

theorem release_of_free (free : names name = none) : release names name = none := by
  simp [release, free]

theorem release_eq_some {rest : Name → Option Entry} (releases : release names name = some rest) :
    rest = Function.update names name none := by
  cases held : names name with
  | none =>
      rw [release_of_free held] at releases
      contradiction
  | some old =>
      rw [release_of_taken held] at releases
      exact (Option.some.inj releases).symm

theorem release_entries {rest : Name → Option Entry} (releases : release names name = some rest)
    {other : Name} {held : Entry} (found : rest other = some held) : names other = some held := by
  rw [release_eq_some releases] at found
  by_cases same : other = name
  · rw [same, Function.update_self] at found
    contradiction
  · rw [Function.update_of_ne same] at found
    exact found

/-- Releasing a claimed name gives the name space back. -/
theorem release_claim (claims : claim names name entry = some claimed) :
    release claimed name = some names := by
  obtain ⟨free, same⟩ := claim_eq_some claims
  rw [same, release_of_taken (Function.update_self ..), Function.update_idem, ← free,
    Function.update_eq_self]

end CoreLib.Foundation
