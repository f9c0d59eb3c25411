/-
The abstract first-in first-out link.

A ledger records what a link has accepted, what is under way and what it has
delivered.  Its field `conserved` says that nothing is lost, repeated or
reordered.  A system implements a link by simulating the two ledger operations;
everything the link promises then follows from the ledger alone.
-/

import CoreLib.Foundation.Runs

set_option autoImplicit false

namespace CoreLib.Foundation

universe u

structure Ledger (Item : Type u) where
  accepted : List Item
  transit : List Item
  delivered : List Item
  conserved : delivered ++ transit = accepted

namespace Ledger

variable {Item : Type u}

def empty : Ledger Item :=
  { accepted := []
    transit := []
    delivered := []
    conserved := rfl }

inductive Label (Item : Type u) where
  | accept (item : Item)
  | deliver

def accept (ledger : Ledger Item) (item : Item) : Ledger Item :=
  { accepted := ledger.accepted ++ [item]
    transit := ledger.transit ++ [item]
    delivered := ledger.delivered
    conserved := by rw [← List.append_assoc, ledger.conserved] }

def deliver (ledger : Ledger Item) : Option (Ledger Item) :=
  match next : ledger.transit with
  | [] => none
  | item :: rest => some
      { accepted := ledger.accepted
        transit := rest
        delivered := ledger.delivered ++ [item]
        conserved := by
          have conserved := ledger.conserved
          rw [next] at conserved
          rw [List.append_assoc]
          exact conserved }

def step (ledger : Ledger Item) : Label Item → Option (Ledger Item)
  | .accept item => some (ledger.accept item)
  | .deliver => ledger.deliver

theorem deliver_eq {ledger : Ledger Item} {item : Item} {rest : List Item}
    (next : ledger.transit = item :: rest) :
    ∃ after, ledger.deliver = some after ∧ after.accepted = ledger.accepted ∧
      after.transit = rest ∧ after.delivered = ledger.delivered ++ [item] := by
  unfold deliver
  split
  · rename_i empty
    rw [next] at empty
    contradiction
  · rename_i head tail found
    rw [next] at found
    cases found
    exact ⟨_, rfl, rfl, rfl, rfl⟩

theorem delivered_prefix (ledger : Ledger Item) : ledger.delivered <+: ledger.accepted :=
  ⟨ledger.transit, ledger.conserved⟩

theorem delivered_all {ledger : Ledger Item} (nothing : ledger.transit = []) :
    ledger.delivered = ledger.accepted := by
  have conserved := ledger.conserved
  rw [nothing, List.append_nil] at conserved
  exact conserved

/-- What a ledger has accepted and delivered is never taken back. -/
theorem step_grows {ledger after : Ledger Item} {label : Label Item}
    (enabled : ledger.step label = some after) :
    ledger.accepted <+: after.accepted ∧ ledger.delivered <+: after.delivered := by
  cases label with
  | accept item =>
      cases enabled
      exact ⟨List.prefix_append _ _, List.prefix_rfl⟩
  | deliver =>
      simp only [step, deliver] at enabled
      split at enabled
      · contradiction
      · cases enabled
        exact ⟨List.prefix_rfl, List.prefix_append _ _⟩

theorem run_grows {ledger final : Ledger Item} {labels : List (Label Item)}
    (performed : run step ledger labels = some final) :
    ledger.accepted <+: final.accepted ∧ ledger.delivered <+: final.delivered := by
  have grows : ∀ now label next,
      ledger.accepted <+: now.accepted ∧ ledger.delivered <+: now.delivered →
      step now label = some next →
      ledger.accepted <+: next.accepted ∧ ledger.delivered <+: next.delivered := by
    intro now label next grown enabled
    have more := step_grows enabled
    exact ⟨grown.1.trans more.1, grown.2.trans more.2⟩
  exact run_preserves grows ⟨List.prefix_rfl, List.prefix_rfl⟩ performed

end Ledger

end CoreLib.Foundation
