/-
A list of candidates that are served in rotation.

`serve` takes the first candidate that still wants service, forgets those before it, and puts
it behind all others.  `Passing` follows one candidate that waits: the candidates ahead of it
and those that have been served since it began to wait are all different, so nobody is
served twice before it.
-/

import Mathlib

set_option autoImplicit false

namespace CoreLib.Foundation.Rotation

universe u

variable {Item : Type u} [DecidableEq Item]

def join (item : Item) (queue : List Item) : List Item :=
  if item ∈ queue then queue else queue ++ [item]

def serve (wants : Item → Bool) (queue : List Item) : Option (Item × List Item) :=
  match queue.dropWhile fun item => !wants item with
  | [] => none
  | item :: rest => some (item, rest ++ [item])

/-! ### Members -/

theorem mem_join {item other : Item} {queue : List Item} :
    other ∈ join item queue ↔ other = item ∨ other ∈ queue := by
  unfold join
  split
  · rename_i present
    constructor
    · exact Or.inr
    · intro either
      rcases either with same | earlier
      · rw [same]
        exact present
      · exact earlier
  · rw [List.mem_append, List.mem_singleton, or_comm]

theorem join_nodup {item : Item} {queue : List Item} (once : queue.Nodup) :
    (join item queue).Nodup := by
  unfold join
  split
  · exact once
  · rename_i absent
    exact List.nodup_append.mpr ⟨once, List.nodup_singleton item, by
      intro one here two there same
      rw [List.mem_singleton.mp there] at same
      rw [same] at here
      exact absent here⟩

omit [DecidableEq Item] in
/-- The candidate served is the first of those left, and wants service. -/
theorem serve_eq {wants : Item → Bool} {queue left : List Item} {item : Item}
    (served : serve wants queue = some (item, left)) :
    ∃ rest, (queue.dropWhile fun other => !wants other) = item :: rest ∧
      left = rest ++ [item] ∧ wants item = true := by
  unfold serve at served
  split at served
  · contradiction
  · rename_i first rest dropped
    cases served
    refine ⟨rest, dropped, rfl, ?_⟩
    have head := List.head?_dropWhile_not (fun other => !wants other) queue
    rw [dropped] at head
    simpa using head

omit [DecidableEq Item] in
theorem serve_nodup {wants : Item → Bool} {queue left : List Item} {item : Item}
    (once : queue.Nodup) (served : serve wants queue = some (item, left)) : left.Nodup := by
  obtain ⟨rest, dropped, same, _⟩ := serve_eq served
  have tail := once.sublist (List.dropWhile_sublist fun other => !wants other)
  rw [dropped] at tail
  rw [same]
  exact (List.perm_append_singleton item rest).nodup_iff.mpr tail

omit [DecidableEq Item] in
theorem mem_serve {wants : Item → Bool} {queue left : List Item} {item : Item}
    (served : serve wants queue = some (item, left)) :
    (∀ other ∈ left, other ∈ queue) ∧ ∀ other ∈ queue, wants other = true → other ∈ left := by
  obtain ⟨rest, dropped, same, _⟩ := serve_eq served
  have members : ∀ other, other ∈ left ↔ other ∈ item :: rest := by
    intro other
    rw [same, List.mem_append, List.mem_singleton, List.mem_cons, or_comm]
  constructor
  · intro other member
    rw [members, ← dropped] at member
    exact (List.dropWhile_sublist _).subset member
  · intro other member wanting
    rw [members, ← dropped]
    have split := List.takeWhile_append_dropWhile (p := fun other => !wants other) (l := queue)
    rw [← split, List.mem_append] at member
    rcases member with skipped | kept
    · have idle := List.mem_takeWhile_imp skipped
      rw [wanting] at idle
      contradiction
    · exact kept

omit [DecidableEq Item] in
theorem serve_exists {wants : Item → Bool} {queue : List Item} {item : Item}
    (member : item ∈ queue) (wanting : wants item = true) :
    ∃ result, serve wants queue = some result := by
  unfold serve
  cases dropped : queue.dropWhile fun other => !wants other with
  | cons first rest => exact ⟨_, rfl⟩
  | nil =>
      have idle := List.dropWhile_eq_nil_iff.mp dropped item member
      rw [wanting] at idle
      contradiction

/-! ### Waiting for service -/

/-- Who is ahead of the candidate and who has been served are different candidates from the
start. -/
structure Passing (start : List Item) (item : Item) (queue served : List Item) : Prop where
  once : queue.Nodup
  split : ∃ ahead behind, queue = ahead ++ item :: behind ∧ (ahead ++ served).Nodup ∧
    ∀ other ∈ ahead ++ served, other ∈ start ∧ other ≠ item

omit [DecidableEq Item] in
theorem Passing.begin {item : Item} {queue : List Item} (once : queue.Nodup)
    (member : item ∈ queue) : Passing queue item queue [] := by
  obtain ⟨ahead, behind, split⟩ := List.append_of_mem member
  refine ⟨once, ahead, behind, split, ?_, ?_⟩
  · rw [split] at once
    rw [List.append_nil]
    exact (List.nodup_append.mp once).1
  · intro other listed
    rw [List.append_nil] at listed
    constructor
    · rw [split]
      exact List.mem_append_left _ listed
    · rw [split] at once
      exact (List.nodup_append.mp once).2.2 other listed item (List.mem_cons_self ..)

theorem Passing.join {start : List Item} {item other : Item} {queue served : List Item}
    (passing : Passing start item queue served) :
    Passing start item (Rotation.join other queue) served := by
  refine ⟨join_nodup passing.once, ?_⟩
  unfold Rotation.join
  split
  · exact passing.split
  · obtain ⟨ahead, behind, split, rest⟩ := passing.split
    refine ⟨ahead, behind ++ [other], ?_, rest⟩
    rw [split, List.append_assoc, List.cons_append]

theorem Passing.erase {start : List Item} {item other : Item} {queue served : List Item}
    (passing : Passing start item queue served) (different : other ≠ item) :
    Passing start item (queue.erase other) served := by
  refine ⟨passing.once.erase other, ?_⟩
  obtain ⟨ahead, behind, split, distinct, known⟩ := passing.split
  rw [split]
  by_cases here : other ∈ ahead
  · rw [List.erase_append_left _ here]
    have fewer : (ahead.erase other ++ served).Sublist (ahead ++ served) :=
      List.erase_sublist.append_right served
    exact ⟨ahead.erase other, behind, rfl, distinct.sublist fewer,
      fun one listed => known one (fewer.subset listed)⟩
  · rw [List.erase_append_right _ here, List.erase_cons_tail (by simp [Ne.symm different])]
    exact ⟨ahead, behind.erase other, rfl, distinct, known⟩

omit [DecidableEq Item] in
/-- Service of another candidate is service of one that was ahead. -/
theorem Passing.serve {start : List Item} {item one : Item} {queue left served : List Item}
    {wants : Item → Bool} (passing : Passing start item queue served)
    (wanting : wants item = true) (serves : Rotation.serve wants queue = some (one, left))
    (different : one ≠ item) : Passing start item left (served ++ [one]) := by
  refine ⟨serve_nodup passing.once serves, ?_⟩
  obtain ⟨ahead, behind, split, distinct, known⟩ := passing.split
  obtain ⟨rest, dropped, same, _⟩ := serve_eq serves
  have stops : (queue.dropWhile fun other => !wants other) =
      (ahead.dropWhile fun other => !wants other) ++ item :: behind := by
    rw [split, List.dropWhile_append, List.dropWhile_cons_of_neg (by simp [wanting])]
    split
    · rename_i none_
      rw [List.isEmpty_iff.mp none_, List.nil_append]
    · rfl
  rw [dropped] at stops
  cases early : ahead.dropWhile fun other => !wants other with
  | nil =>
      rw [early, List.nil_append] at stops
      cases stops
      exact absurd rfl different
  | cons first others =>
      rw [early, List.cons_append] at stops
      cases stops
      have fewer : (one :: others ++ served).Sublist (ahead ++ served) := by
        rw [← early]
        exact (List.dropWhile_sublist _).append_right served
      have moved : (others ++ (served ++ [one])).Perm (one :: others ++ served) := by
        rw [← List.append_assoc, List.cons_append]
        exact List.perm_append_singleton one (others ++ served)
      refine ⟨others, behind ++ [one], ?_, ?_, ?_⟩
      · rw [same, List.append_assoc, List.cons_append]
      · exact moved.nodup_iff.mpr (distinct.sublist fewer)
      · intro other listed
        exact known other (fewer.subset (moved.subset listed))

omit [DecidableEq Item] in
/-- Fewer are served before the candidate than there are others. -/
theorem Passing.bounded {start : List Item} {item : Item} {queue served : List Item}
    (passing : Passing start item queue served) (member : item ∈ start) :
    served.Nodup ∧ (∀ other ∈ served, other ∈ start) ∧ served.length < start.length := by
  obtain ⟨ahead, behind, _, distinct, known⟩ := passing.split
  have once := (List.nodup_append.mp distinct).2.1
  have listed : ∀ other ∈ served, other ∈ start ∧ other ≠ item :=
    fun other here => known other (List.mem_append_right _ here)
  refine ⟨once, fun other here => (listed other here).1, ?_⟩
  have apart : (item :: served).Nodup :=
    List.nodup_cons.mpr ⟨fun here => (listed item here).2 rfl, once⟩
  have within : item :: served ⊆ start := by
    intro other here
    rcases List.mem_cons.mp here with same | earlier
    · rw [same]
      exact member
    · exact (listed other earlier).1
  exact (List.subperm_of_subset apart within).length_le

end CoreLib.Foundation.Rotation
