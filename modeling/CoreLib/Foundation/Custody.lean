/-
Accounts of acquired and released items.

A table maps keys to items, and some of its entries are in the custody of owners.
`Accounted` says that each acquired entry is either still in the table and has an
owner, or was released once, and that every other entry is as it was at the
beginning.  The rules say which changes of the table keep the accounts.  `Held` is
the ownership by a changing set of objects that hold at most one entry each.
-/

import Mathlib

set_option autoImplicit false

namespace CoreLib.Foundation

universe u v

variable {Key : Type u} {Item : Type v}

structure Accounted (base find : Key → Option Item) (acquired released : List (Key × Item))
    (owner : Key → Item → Prop) : Prop where
  acquiredOnce : acquired.Nodup
  releasedOnce : released.Nodup
  releasedGone : ∀ key item,
    (key, item) ∈ released ↔ (key, item) ∈ acquired ∧ find key ≠ some item
  foreign : ∀ key item, (key, item) ∉ acquired → (find key = some item ↔ base key = some item)
  owned : ∀ key item, owner key item ↔ (key, item) ∈ acquired ∧ find key = some item

theorem accounted_start (base : Key → Option Item) {owner : Key → Item → Prop}
    (nobody : ∀ key item, ¬ owner key item) : Accounted base base [] [] owner :=
  { acquiredOnce := List.nodup_nil
    releasedOnce := List.nodup_nil
    releasedGone := by simp
    foreign := by simp
    owned := by simp [nobody] }

namespace Accounted

variable {base find : Key → Option Item} {acquired released : List (Key × Item)}
  {owner other : Key → Item → Prop} {key : Key} {item : Item}

private theorem nodup_concat {entries : List (Key × Item)} {entry : Key × Item}
    (once : entries.Nodup) (fresh : entry ∉ entries) : (entries ++ [entry]).Nodup := by
  simpa using once.concat fresh

private theorem mem_concat_other {entries : List (Key × Item)} {k : Key} {i : Item}
    (different : ¬ (k = key ∧ i = item)) :
    (k, i) ∈ entries ++ [(key, item)] ↔ (k, i) ∈ entries := by
  rw [List.mem_append, List.mem_singleton, Prod.mk.injEq, or_iff_left different]

/-- An update under a key that has no entry but the item, before or after, is one of the
item alone. -/
private theorem update_other [DecidableEq Key] {value : Option Item}
    (before : ∀ old, find key = some old → old = item)
    (after : ∀ new, value = some new → new = item) {k : Key} {i : Item}
    (different : ¬ (k = key ∧ i = item)) :
    Function.update find key value k = some i ↔ find k = some i := by
  by_cases same : k = key
  · subst same
    rw [Function.update_self]
    constructor
    · intro now
      exact absurd ⟨rfl, after i now⟩ different
    · intro formerly
      exact absurd ⟨rfl, before i formerly⟩ different
  · rw [Function.update_of_ne same]

theorem found (accounted : Accounted base find acquired released owner) (held : owner key item) :
    find key = some item := ((accounted.owned key item).mp held).2

theorem congr (accounted : Accounted base find acquired released owner)
    (same : ∀ key item, other key item ↔ owner key item) :
    Accounted base find acquired released other :=
  { accounted with
    owned := by
      intro key item
      rw [same]
      exact accounted.owned key item }

theorem acquire [DecidableEq Key] (accounted : Accounted base find acquired released owner)
    (free : find key = none) (fresh : (key, item) ∉ acquired)
    (owners : ∀ k i, other k i ↔ owner k i ∨ (k = key ∧ i = item)) :
    Accounted base (Function.update find key (some item)) (acquired ++ [(key, item)]) released
      other := by
  have before : ∀ old, find key = some old → old = item := by
    intro old present
    rw [free] at present
    contradiction
  have after : ∀ new, some item = some new → new = item :=
    fun new same => (Option.some.inj same).symm
  refine ⟨nodup_concat accounted.acquiredOnce fresh, accounted.releasedOnce, ?_, ?_, ?_⟩
  · intro k i
    by_cases pair : k = key ∧ i = item
    · obtain ⟨rfl, rfl⟩ := pair
      simp [accounted.releasedGone, fresh]
    · rw [Ne, update_other before after pair, mem_concat_other pair]
      exact accounted.releasedGone k i
  · intro k i unlisted
    have pair : ¬ (k = key ∧ i = item) := by
      rintro ⟨rfl, rfl⟩
      exact unlisted (List.mem_append_right _ (List.mem_singleton_self _))
    rw [update_other before after pair]
    exact accounted.foreign k i fun member => unlisted (List.mem_append_left _ member)
  · intro k i
    rw [owners]
    by_cases pair : k = key ∧ i = item
    · obtain ⟨rfl, rfl⟩ := pair
      simp
    · rw [update_other before after pair, mem_concat_other pair, or_iff_left pair]
      exact accounted.owned k i

theorem adopt (accounted : Accounted base find acquired released owner)
    (present : find key = some item) (fresh : (key, item) ∉ acquired)
    (owners : ∀ k i, other k i ↔ owner k i ∨ (k = key ∧ i = item)) :
    Accounted base find (acquired ++ [(key, item)]) released other := by
  refine ⟨nodup_concat accounted.acquiredOnce fresh, accounted.releasedOnce, ?_, ?_, ?_⟩
  · intro k i
    rw [accounted.releasedGone, List.mem_append, List.mem_singleton, Prod.mk.injEq]
    constructor
    · intro gone
      exact ⟨Or.inl gone.1, gone.2⟩
    · rintro ⟨listed | ⟨rfl, rfl⟩, absent⟩
      · exact ⟨listed, absent⟩
      · contradiction
  · intro k i unlisted
    exact accounted.foreign k i fun member => unlisted (List.mem_append_left _ member)
  · intro k i
    rw [owners, accounted.owned, List.mem_append, List.mem_singleton, Prod.mk.injEq]
    constructor
    · rintro (⟨listed, found⟩ | ⟨rfl, rfl⟩)
      · exact ⟨Or.inl listed, found⟩
      · exact ⟨Or.inr ⟨rfl, rfl⟩, present⟩
    · rintro ⟨listed | same, found⟩
      · exact Or.inl ⟨listed, found⟩
      · exact Or.inr same

/-- The owner of a key takes its entry out of the table. -/
theorem giveBack [DecidableEq Key] (accounted : Accounted base find acquired released owner)
    (held : owner key item) (owners : ∀ k i, other k i ↔ owner k i ∧ k ≠ key) :
    Accounted base (Function.update find key none) acquired (released ++ [(key, item)]) other := by
  obtain ⟨listed, present⟩ := (accounted.owned key item).mp held
  have unreleased : (key, item) ∉ released := by
    intro gone
    exact ((accounted.releasedGone key item).mp gone).2 present
  have before : ∀ old, find key = some old → old = item := by
    intro old same
    rw [present] at same
    exact (Option.some.inj same).symm
  have after : ∀ new, none = some new → new = item := nofun
  refine ⟨accounted.acquiredOnce, nodup_concat accounted.releasedOnce unreleased, ?_, ?_, ?_⟩
  · intro k i
    by_cases pair : k = key ∧ i = item
    · obtain ⟨rfl, rfl⟩ := pair
      simp [listed]
    · rw [Ne, update_other before after pair, mem_concat_other pair]
      exact accounted.releasedGone k i
  · intro k i unlisted
    have pair : ¬ (k = key ∧ i = item) := by
      rintro ⟨rfl, rfl⟩
      exact unlisted listed
    rw [update_other before after pair]
    exact accounted.foreign k i unlisted
  · intro k i
    have before := accounted.owned k i
    by_cases same : k = key
    · simp [owners, same]
    · simp [owners, before, same]

end Accounted

/-! ### Objects as owners -/

section Held

universe w z

variable {Id : Type w} {Object : Type z}

def Held (objects : Id → Option Object) (holding : Object → Option (Key × Item)) (key : Key)
    (item : Item) : Prop :=
  ∃ id object, objects id = some object ∧ holding object = some (key, item)

variable {objects : Id → Option Object} {holding : Object → Option (Key × Item)}

/-- Two objects do not hold entries under one key if they do not hold one item. -/
theorem Accounted.sole_holder {base find : Key → Option Item}
    {acquired released : List (Key × Item)}
    (accounted : Accounted base find acquired released (Held objects holding))
    {first second : Id} {one two : Object} {key : Key} {item other : Item}
    (listed : objects first = some one) (also : objects second = some two)
    (holds : holding one = some (key, item)) (alsoHolds : holding two = some (key, other)) :
    item = other := by
  have here := accounted.found ⟨first, one, listed, holds⟩
  have there := accounted.found ⟨second, two, also, alsoHolds⟩
  rw [here] at there
  exact Option.some.inj there

private theorem ne_of_holding {id other : Id} {found : Object}
    {entry : Key × Item}
    (before : ∀ old, objects id = some old → holding old = none)
    (listed : objects other = some found) (holds : holding found = some entry) : other ≠ id := by
  rintro rfl
  rw [before found listed] at holds
  contradiction

variable [DecidableEq Id] {id : Id} {object : Object} {replacement : Option Object}
  {key : Key} {item : Item}

theorem forall_update {holds : Id → Object → Prop}
    (others : ∀ other object, other ≠ id → objects other = some object → holds other object)
    (replaced : ∀ object, replacement = some object → holds id object) :
    ∀ other object, Function.update objects id replacement other = some object →
      holds other object := by
  intro other object listed
  by_cases same : other = id
  · rw [same, Function.update_self] at listed
    rw [same]
    exact replaced object listed
  · rw [Function.update_of_ne same] at listed
    exact others other object same listed

/-- Objects of which no two clash stay so when the one that is replaced gives way to
one that clashes with no other. -/
theorem apart_update {clash : Object → Object → Prop}
    (symmetric : ∀ one two, clash one two → clash two one)
    (apart : ∀ first second one two, objects first = some one → objects second = some two →
      clash one two → first = second)
    (alone : ∀ new, replacement = some new → ∀ other old, objects other = some old →
      ¬ clash old new) :
    ∀ first second one two, Function.update objects id replacement first = some one →
      Function.update objects id replacement second = some two → clash one two →
      first = second := by
  intro first second one two here there clashes
  by_cases isFirst : first = id
  · by_cases isSecond : second = id
    · rw [isFirst, isSecond]
    · rw [isFirst, Function.update_self] at here
      rw [Function.update_of_ne isSecond] at there
      exact absurd (symmetric one two clashes) (alone one here second two there)
  · rw [Function.update_of_ne isFirst] at here
    by_cases isSecond : second = id
    · rw [isSecond, Function.update_self] at there
      exact absurd clashes (alone two there first one here)
    · rw [Function.update_of_ne isSecond] at there
      exact apart first second one two here there clashes

/-- What is held after one object has been replaced: by the new one, or as before by
another. -/
private theorem held_update_iff (k : Key) (i : Item) :
    Held (Function.update objects id replacement) holding k i ↔
      (∃ new, replacement = some new ∧ holding new = some (k, i)) ∨
        ∃ other found, other ≠ id ∧ objects other = some found ∧
          holding found = some (k, i) := by
  constructor
  · rintro ⟨other, found, listed, entry⟩
    by_cases same : other = id
    · rw [same, Function.update_self] at listed
      exact Or.inl ⟨found, listed, entry⟩
    · rw [Function.update_of_ne same] at listed
      exact Or.inr ⟨other, found, same, listed, entry⟩
  · rintro (⟨new, same, entry⟩ | ⟨other, found, different, listed, entry⟩)
    · exact ⟨id, new, (Function.update_self ..).trans same, entry⟩
    · refine ⟨other, found, ?_, entry⟩
      rw [Function.update_of_ne different]
      exact listed

theorem held_insert (before : ∀ old, objects id = some old → holding old = none)
    (holds : holding object = some (key, item)) (k : Key) (i : Item) :
    Held (Function.update objects id (some object)) holding k i ↔
      Held objects holding k i ∨ (k = key ∧ i = item) := by
  rw [held_update_iff]
  constructor
  · rintro (⟨new, same, entry⟩ | ⟨other, found, _, listed, entry⟩)
    · cases same
      rw [holds] at entry
      cases entry
      exact Or.inr ⟨rfl, rfl⟩
    · exact Or.inl ⟨other, found, listed, entry⟩
  · rintro (⟨other, found, listed, entry⟩ | ⟨rfl, rfl⟩)
    · exact Or.inr ⟨other, found, ne_of_holding before listed entry, listed, entry⟩
    · exact Or.inl ⟨object, rfl, holds⟩

theorem held_update (before : ∀ old, objects id = some old → holding old = none)
    (after : ∀ new, replacement = some new → holding new = none) (k : Key) (i : Item) :
    Held (Function.update objects id replacement) holding k i ↔ Held objects holding k i := by
  rw [held_update_iff]
  constructor
  · rintro (⟨new, same, entry⟩ | ⟨other, found, _, listed, entry⟩)
    · rw [after new same] at entry
      contradiction
    · exact ⟨other, found, listed, entry⟩
  · rintro ⟨other, found, listed, entry⟩
    exact Or.inr ⟨other, found, ne_of_holding before listed entry, listed, entry⟩

theorem held_erase (listed : objects id = some object)
    (holds : holding object = some (key, item))
    (after : ∀ new, replacement = some new → holding new = none)
    (sole : ∀ other found i, objects other = some found → holding found = some (key, i) →
      other = id) (k : Key) (i : Item) :
    Held (Function.update objects id replacement) holding k i ↔
      Held objects holding k i ∧ k ≠ key := by
  rw [held_update_iff]
  constructor
  · rintro (⟨new, same, entry⟩ | ⟨other, found, different, present, entry⟩)
    · rw [after new same] at entry
      contradiction
    · refine ⟨⟨other, found, present, entry⟩, ?_⟩
      rintro rfl
      exact different (sole other found i present entry)
  · rintro ⟨⟨other, found, present, entry⟩, unequal⟩
    have different : other ≠ id := by
      rintro rfl
      rw [listed] at present
      cases present
      rw [holds] at entry
      cases entry
      contradiction
    exact Or.inr ⟨other, found, different, present, entry⟩

end Held

/-! ### Owners of several entries -/

section HeldAmong

universe w z

variable {Id : Type w} {Object : Type z}

def HeldAmong (objects : Id → Option Object) (holding : Object → List (Key × Item)) (key : Key)
    (item : Item) : Prop :=
  ∃ id object, objects id = some object ∧ (key, item) ∈ holding object

def holdings (holding : Object → List (Key × Item)) (object : Option Object) :
    List (Key × Item) :=
  object.elim [] holding

variable {objects : Id → Option Object} {holding : Object → List (Key × Item)} {key : Key}
  {item : Item}

theorem mem_holdings {object : Option Object} :
    (key, item) ∈ holdings holding object ↔
      ∃ found, object = some found ∧ (key, item) ∈ holding found := by
  cases object with
  | none => simp [holdings]
  | some found => simp [holdings]

theorem heldAmong_congr {others : Id → Option Object}
    (same : ∀ id, holdings holding (others id) = holdings holding (objects id)) :
    HeldAmong others holding key item ↔ HeldAmong objects holding key item := by
  constructor
  · intro held
    obtain ⟨id, here⟩ := held
    exact ⟨id, mem_holdings.mp (by rw [← same id]; exact mem_holdings.mpr here)⟩
  · intro held
    obtain ⟨id, here⟩ := held
    exact ⟨id, mem_holdings.mp (by rw [same id]; exact mem_holdings.mpr here)⟩

variable [DecidableEq Id] {id : Id} {replacement : Option Object}

theorem heldAmong_update :
    HeldAmong (Function.update objects id replacement) holding key item ↔
      (key, item) ∈ holdings holding replacement ∨
        ∃ other found, other ≠ id ∧ objects other = some found ∧ (key, item) ∈ holding found := by
  rw [mem_holdings]
  constructor
  · intro held
    obtain ⟨other, found, listed, member⟩ := held
    by_cases same : other = id
    · rw [same, Function.update_self] at listed
      exact Or.inl ⟨found, listed, member⟩
    · rw [Function.update_of_ne same] at listed
      exact Or.inr ⟨other, found, same, listed, member⟩
  · intro held
    rcases held with ⟨found, listed, member⟩ | ⟨other, found, different, listed, member⟩
    · exact ⟨id, found, (Function.update_self ..).trans listed, member⟩
    · exact ⟨other, found, (Function.update_of_ne different ..).trans listed, member⟩

theorem heldAmong_split (id : Id) :
    HeldAmong objects holding key item ↔
      (key, item) ∈ holdings holding (objects id) ∨
        ∃ other found, other ≠ id ∧ objects other = some found ∧ (key, item) ∈ holding found := by
  have unchanged := @heldAmong_update Key Item Id Object objects holding key item _ id (objects id)
  rw [Function.update_eq_self] at unchanged
  exact unchanged

theorem heldAmong_gain {gained : List (Key × Item)}
    (more : holdings holding replacement = holdings holding (objects id) ++ gained) :
    HeldAmong (Function.update objects id replacement) holding key item ↔
      HeldAmong objects holding key item ∨ (key, item) ∈ gained := by
  rw [heldAmong_update, heldAmong_split id, more, List.mem_append]
  exact or_right_comm

theorem heldAmong_keep
    (same : holdings holding replacement = holdings holding (objects id)) :
    HeldAmong (Function.update objects id replacement) holding key item ↔
      HeldAmong objects holding key item := by
  have more : holdings holding replacement = holdings holding (objects id) ++ [] := by
    rw [same, List.append_nil]
  rw [heldAmong_gain more]
  simp

theorem heldAmong_lose
    (sole : ∀ other found entry, objects other = some found → entry ∈ holding found →
      entry ∈ holdings holding (objects id) → other = id) :
    HeldAmong (Function.update objects id none) holding key item ↔
      HeldAmong objects holding key item ∧ (key, item) ∉ holdings holding (objects id) := by
  rw [heldAmong_update, heldAmong_split id]
  constructor
  · intro held
    rcases held with nothing | ⟨other, found, different, listed, member⟩
    · simp [holdings] at nothing
    · refine ⟨Or.inr ⟨other, found, different, listed, member⟩, ?_⟩
      intro lost
      exact different (sole other found _ listed member lost)
  · intro held
    obtain ⟨here | there, kept⟩ := held
    · exact absurd here kept
    · exact Or.inr there

end HeldAmong

end CoreLib.Foundation
