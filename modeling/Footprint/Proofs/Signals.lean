import Footprint.Signals
import Footprint.Proofs.Binary64.Arithmetic

/-! What the walk over a tree keeps: no counter falls below zero, and once a function that calls itself
has been met the weight of recursion is at least that of one such function. -/
namespace Footprint.Signals

open Syntax Binary64

structure Consistent (s : Signals) : Prop where
  loops : 0 ≤ s.loops
  nesting : 0 ≤ s.nesting
  recursion : 0 ≤ s.recursion
  recursive : s.recursive = true → recursionBonus ≤ s.recursion

theorem consistent_start : Consistent {} where
  loops := zero_le_zero
  nesting := zero_le_zero
  recursion := zero_le_zero
  recursive := by nofun

theorem weights_nonneg :
    0 ≤ loopWeight ∧ 0 ≤ iterationCallWeight ∧ 0 ≤ nestingBonus ∧ 0 ≤ recursionBonus ∧
      0 ≤ allocationWeight := by decide +kernel

theorem zero_add_recursionBonus : 0 + recursionBonus = recursionBonus := by decide +kernel

theorem zero_le_recursionBonus : 0 ≤ recursionBonus := weights_nonneg.2.2.2.1

theorem le_add_bonus {x : Binary64} (h : 0 ≤ x) : recursionBonus ≤ x + recursionBonus := by
  have same : recursionBonus ≤ recursionBonus := le_refl' (ne_nan_of_le zero_le_recursionBonus).2
  have step := add_le_add_of_nonneg zero_le_zero zero_le_recursionBonus h same
  rwa [zero_add_recursionBonus] at step

variable {s : Signals}

theorem Consistent.addLoops (h : s.Consistent) {w : Binary64} (hw : 0 ≤ w) :
    Consistent { s with loops := s.loops + w } :=
  { h with loops := add_nonneg h.loops hw }

theorem Consistent.addNesting (h : s.Consistent) :
    Consistent { s with nesting := s.nesting + nestingBonus } :=
  { h with nesting := add_nonneg h.nesting weights_nonneg.2.2.1 }

theorem Consistent.addRecursion (h : s.Consistent) :
    Consistent { s with recursion := s.recursion + recursionBonus, recursive := true } :=
  { h with
    recursion := add_nonneg h.recursion zero_le_recursionBonus
    recursive := fun _ => le_add_bonus h.recursion }

theorem Consistent.enterFunction (h : s.Consistent) (t : Tree) : (s.enterFunction t).Consistent := by
  unfold Signals.enterFunction
  split
  · split
    · exact h
    · dsimp only
      have nested (body : Tree) : Consistent
          (if 1 < body.entryLoops then { s with nesting := s.nesting + nestingBonus } else s) := by
        split
        · exact h.addNesting
        · exact h
      split
      · exact (nested _).addRecursion
      · exact nested _
  · exact h

theorem Consistent.enter (h : s.Consistent) (t : Tree) : (s.enter t).Consistent := by
  unfold Signals.enter
  split
  · exact h.addLoops weights_nonneg.1
  split
  · split
    · exact h.addLoops weights_nonneg.2.1
    · exact h
  split
  · exact h.enterFunction t
  split
  · split
    · exact { h with }
    · exact h
  · exact h

mutual

theorem Consistent.visit {s : Signals} (h : s.Consistent) : (t : Tree) → (s.visit t).Consistent
  | .leaf kind named text => by
    rw [Signals.visit]
    exact h.enter _
  | .node kind children => by
    rw [Signals.visit]
    exact (h.enter _).visitAll children

theorem Consistent.visitAll {s : Signals} (h : s.Consistent) :
    (trees : List (Option Field × Tree)) → (s.visitAll trees).Consistent
  | [] => by
    rw [Signals.visitAll]
    exact h
  | (field, t) :: rest => by
    rw [Signals.visitAll]
    split
    · exact (h.visit t).visitAll rest
    · exact h.visitAll rest

end

theorem consistent_of_ofTree? {stack : CallStack} {t : Tree} (h : ofTree? stack t = some s) : s.Consistent := by
  unfold ofTree? at h
  split at h
  · obtain rfl := Option.some.inj h
    exact consistent_start.visit t
  · cases h

end Footprint.Signals
