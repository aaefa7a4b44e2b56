import Footprint.Complexity
import Footprint.Proofs.Signals

/-! Where the factors of a profile lie. The clamps bound them whatever the counters are, numbers or not;
that recursion shows in the complexity needs counters that a walk can have come to. -/
namespace Footprint

open Binary64

def recursiveComplexity : Binary64 := 2.5

theorem bounds_ordered :
    (0 : Binary64) ≤ 1.0 ∧ (1.0 : Binary64) ≤ recursiveComplexity ∧ recursiveComplexity ≤ 3.0 ∧
      (3.0 : Binary64) ≤ 5.0 := by decide +kernel

theorem zero_le_one : (0 : Binary64) ≤ 1.0 := bounds_ordered.1

theorem one_le_one : (1.0 : Binary64) ≤ 1.0 := le_refl' (ne_nan_of_le zero_le_one).2

theorem one_le_recursiveComplexity : (1.0 : Binary64) ≤ recursiveComplexity := bounds_ordered.2.1

theorem recursiveComplexity_le_five : recursiveComplexity ≤ 5.0 :=
  le_trans' bounds_ordered.2.2.1 bounds_ordered.2.2.2

theorem one_le_three : (1.0 : Binary64) ≤ 3.0 :=
  le_trans' one_le_recursiveComplexity bounds_ordered.2.2.1

theorem one_le_five : (1.0 : Binary64) ≤ 5.0 := le_trans' one_le_three bounds_ordered.2.2.2

/-- What holds of the two factors of a program and of its recursion, by the branch that tells them. -/
structure Coherent (branch : Branch) (complexity memPressure : Binary64) (recursive : Bool) : Prop where
  one_le_complexity : 1.0 ≤ complexity
  complexity_le : complexity ≤ 5.0
  one_le_pressure : 1.0 ≤ memPressure
  pressure_le : memPressure ≤ 2.5
  pressure_eq : branch ≠ .syntaxTree → memPressure = 1.0
  keywords_le : branch = .keywords → complexity ≤ 3.0
  sizeOnly_eq : branch = .sizeOnly → complexity = 1.0
  syntaxTree : recursive = true → branch = .syntaxTree
  recursive_le : recursive = true → recursiveComplexity ≤ complexity

namespace Scoring

theorem one_le_clamp (x cap : Binary64) : 1.0 ≤ clamp x cap := by
  have one : (1.0 : Binary64) ≠ nan := (ne_nan_of_le zero_le_one).2
  unfold clamp Binary64.max
  split
  case isTrue above =>
    have notNan : x.min cap ≠ nan := by
      intro absurd
      rw [absurd] at above
      exact not_lt_nan _ above
    have order := (lt_iff_rank one notNan).mp above
    exact (le_iff_rank one notNan).mpr order.le
  case isFalse => exact one_le_one

theorem clamp_le_of_le {cap bound : Binary64} (least : 1.0 ≤ bound) (hcap : cap ≤ bound) (x : Binary64) :
    clamp x cap ≤ bound := by
  have notNan := (ne_nan_of_le hcap).1
  unfold clamp Binary64.max
  split
  case isTrue above =>
    unfold Binary64.min at above ⊢
    split at above
    case isTrue high =>
      rw [if_pos high]
      exact hcap
    case isFalse low =>
      rw [if_neg low]
      have number : x ≠ nan := by
        rintro rfl
        exact not_lt_nan _ above
      exact le_trans' (le_of_not_lt notNan number low) hcap
  case isFalse => exact least

theorem clamp_le {cap : Binary64} (least : 1.0 ≤ cap) (x : Binary64) : clamp x cap ≤ cap :=
  clamp_le_of_le least (le_refl' (ne_nan_of_le least).2) x

theorem le_clamp {bound x cap : Binary64} (least : 1.0 ≤ cap) (hx : bound ≤ x) (hcap : bound ≤ cap) :
    bound ≤ clamp x cap := by
  have inner : bound ≤ x.min cap := by
    unfold Binary64.min
    split
    · exact hcap
    · exact hx
  unfold clamp Binary64.max
  split
  case isTrue => exact inner
  case isFalse low =>
    exact le_trans' inner (le_of_not_lt (ne_nan_of_le least).1 (ne_nan_of_le inner).2 low)

theorem clamp_le_clamp {x y cap : Binary64} (least : 1.0 ≤ cap) (h : x ≤ y) : clamp x cap ≤ clamp y cap := by
  have low : x.min cap ≤ y ∧ x.min cap ≤ cap := by
    unfold Binary64.min
    split
    case isTrue above => exact ⟨le_trans' (le_of_lt' above) h, le_refl' (ne_nan_of_le least).2⟩
    case isFalse below =>
      exact ⟨h, le_of_not_lt (ne_nan_of_le least).2 (ne_nan_of_le h).1 below⟩
  rw [clamp, Binary64.max]
  split
  case isTrue => exact le_clamp least low.1 low.2
  case isFalse => exact one_le_clamp y cap

theorem le_add_of_nonneg {b x y : Binary64} (hb : b + 0 = b) (nonneg : 0 ≤ b) (h : b ≤ x)
    (hy : 0 ≤ y) : b ≤ x + y := by
  rw [← hb]
  exact add_le_add_of_nonneg nonneg zero_le_zero h hy

theorem loopFactor_spec :
    (1.0 : Binary64) + 0 = 1.0 ∧ (0 : Binary64) * 0.15 = 0 ∧ (0.15 : Binary64).isFinite = true ∧
      0 < (0.15 : Binary64).units := by decide +kernel

theorem loopShare_nonneg {loops : Binary64} (nonneg : 0 ≤ loops) : 0 ≤ loops * 0.15 := by
  obtain ⟨-, zero, finite, pos⟩ := loopFactor_spec
  rw [← zero]
  exact mul_le_mul_right nonneg finite pos

theorem one_le_add_loopShare {loops : Binary64} (nonneg : 0 ≤ loops) : 1.0 ≤ 1.0 + loops * 0.15 :=
  le_add_of_nonneg loopFactor_spec.1 zero_le_one one_le_one (loopShare_nonneg nonneg)

theorem add_loopShare_le {loops more : Binary64} (nonneg : 0 ≤ loops) (h : loops ≤ more) :
    1.0 + loops * 0.15 ≤ 1.0 + more * 0.15 := by
  obtain ⟨-, -, finite, pos⟩ := loopFactor_spec
  exact add_le_add_of_nonneg zero_le_one (loopShare_nonneg nonneg) one_le_one
    (mul_le_mul_right h finite pos)

theorem recursiveComplexity_le_sum {s : Signals} (h : s.Consistent) (recursive : s.recursive = true) :
    recursiveComplexity ≤ 1.0 + s.loops * 0.15 + s.nesting + s.recursion := by
  have split : (1.0 : Binary64) + Signals.recursionBonus = recursiveComplexity := by decide +kernel
  have nested := le_add_of_nonneg loopFactor_spec.1 zero_le_one (one_le_add_loopShare h.loops) h.nesting
  rw [← split]
  exact add_le_add_of_nonneg zero_le_one Signals.zero_le_recursionBonus nested (h.recursive recursive)

theorem coherent_keywords (x : Binary64) : Coherent .keywords (clamp x 3.0) 1.0 false where
  one_le_complexity := one_le_clamp x 3.0
  complexity_le := le_trans' (clamp_le one_le_three x) bounds_ordered.2.2.2
  one_le_pressure := one_le_one
  pressure_le := one_le_recursiveComplexity
  pressure_eq _ := rfl
  keywords_le _ := clamp_le one_le_three x
  sizeOnly_eq := nofun
  syntaxTree := nofun
  recursive_le := nofun

theorem coherent_sizeOnly : Coherent .sizeOnly 1.0 1.0 false where
  one_le_complexity := one_le_one
  complexity_le := one_le_five
  one_le_pressure := one_le_one
  pressure_le := one_le_recursiveComplexity
  pressure_eq _ := rfl
  keywords_le := nofun
  sizeOnly_eq _ := rfl
  syntaxTree := nofun
  recursive_le := nofun

theorem coherent_syntaxTree (y : Binary64) {x : Binary64} {recursive : Bool}
    (h : recursive = true → recursiveComplexity ≤ x) :
    Coherent .syntaxTree (clamp x 5.0) (clamp y 2.5) recursive where
  one_le_complexity := one_le_clamp x 5.0
  complexity_le := clamp_le one_le_five x
  one_le_pressure := one_le_clamp y 2.5
  pressure_le := clamp_le one_le_recursiveComplexity y
  pressure_eq absurd := (absurd rfl).elim
  keywords_le := nofun
  sizeOnly_eq := nofun
  syntaxTree _ := rfl
  recursive_le found := le_clamp one_le_five (h found) recursiveComplexity_le_five

theorem coherent_profile {a : Analysis} (h : a.branch = .syntaxTree → a.signals.Consistent) :
    Coherent a.branch (profile {} a).complexity (profile {} a).memPressure
      (profile {} a).recursive := by
  obtain ⟨signals, branch⟩ := a
  unfold profile
  cases branch <;> dsimp only
  case syntaxTree => exact coherent_syntaxTree _ (recursiveComplexity_le_sum (h rfl))
  case keywords => exact coherent_keywords _
  case sizeOnly => exact coherent_sizeOnly

end Scoring
end Footprint
