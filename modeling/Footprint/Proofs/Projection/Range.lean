import Footprint.Proofs.Binary64.Within
import Footprint.Proofs.Projection

/-! The numbers of executions that can be projected. Only the longest period counts: where its executions
and the amount that they give off are doubles, so are those of the others, and whatever else is made of an
amount stays far below the limit. -/
namespace Footprint

open Binary64

namespace Binary64

theorem upTo_of_isFinite {x : Binary64} (low : 0 ≤ x) (finite : x.isFinite = true) : x.UpTo 1024 where
  nonneg := low
  rank_le := by
    have limit : limitUnits = 2 ^ (1074 + 1024) := by
      unfold limitUnits
      rw [← pow_add]
    rw [rank_of_isFinite finite, ← limit]
    exact (units_lt x).2.le

theorem isFinite_mul_of_le {x y z : Binary64} (hx : 0 ≤ x) (fx : x.isFinite = true) (hy : 0 ≤ y)
    (h : y ≤ z) (fz : z.isFinite = true) (product : (x * z).isFinite = true) :
    (x * y).isFinite = true ∧ 0 ≤ x * y := by
  have fy := isFinite_of_le_of_le zero_spec.1 fz hy h
  have lowX := rank_nonneg hx
  have lowY := rank_nonneg hy
  rw [rank_of_isFinite fx] at lowX
  rw [rank_of_isFinite fy] at lowY
  obtain ⟨rank, number⟩ := rank_mul fx fy
  have nonneg : 0 ≤ x * y :=
    (zero_le_iff number).mpr (rank ▸ roundRatio_nonneg (Int.mul_nonneg lowX lowY) _)
  have below : x * y ≤ x * z := mul_le_mul_of_isFinite hx (le_refl' (ne_nan_of_isFinite fx)) hy h fx fz
  exact ⟨isFinite_of_le_of_le zero_spec.1 product nonneg below, nonneg⟩

theorem UpTo.exists_roundToInteger {x : Binary64} {k : Nat} (h : x.UpTo k) (small : k + 1 ≤ 1023) :
    ∃ n, x.roundToInteger = .ok n := by
  have scale : decimalScale 0 ≤ 2 ^ 0 := by decide
  obtain ⟨a, rounded, -⟩ := h.roundHalfUp scale (by omega)
  obtain ⟨n, truncated⟩ := exists_truncate? (isFinite_of_roundHalfUp rounded)
  exact ⟨n, bind_eq_ok_of rounded truncated⟩

end Binary64

namespace Projection

theorem comparison_constants :
    (1 : Binary64).UpTo 0 ∧ (10 : Binary64).UpTo 4 ∧ (1000 : Binary64).UpTo 10 ∧
      2 ^ 9 * (unitsPerOne : Int) ≤ (1000 : Binary64).units ∧
      (treeKgPerYear.isFinite = true ∧ 2 ^ 4 * (unitsPerOne : Int) ≤ treeKgPerYear.units) ∧
      (phoneChargeGrams.isFinite = true ∧ (unitsPerOne : Int) ≤ phoneChargeGrams.units) ∧
      (carKgPerKm.isFinite = true ∧ (unitsPerOne : Int) ≤ 2 ^ 3 * carKgPerKm.units) ∧
      (householdKgPerDay.isFinite = true ∧ (unitsPerOne : Int) ≤ householdKgPerDay.units) ∧
      ∀ period : Period, period.perYear.UpTo 9 := by
  refine ⟨?_, ?_, ?_, ?_, ?_, ?_, ?_, ?_, fun period => ?_⟩
  case refine_9 => cases period <;> decide +kernel
  all_goals decide +kernel

abbrev kilogramBits : Nat := 1015

theorem exists_trees {kg : Binary64} {k : Nat} (h : kg.UpTo (k + 4)) (small : k + 9 ≤ 1023)
    (period : Period) :
    ∃ trees, treesToOffset kg period.days = .ok trees ∧ 1 ≤ trees ∧ trees ≤ (2 ^ (k + 9) : Nat) := by
  obtain ⟨-, -, -, -, ⟨finite, divisor⟩, -, -, -, perYear⟩ := comparison_constants
  have years := (h.div_two_pow (h.isFinite (by omega)) (by omega) finite divisor).mul
    (perYear period) small
  obtain ⟨count, counted, low, high⟩ := years.ceil small
  have one : 1 ≤ 2 ^ (k + 9) := Nat.one_le_two_pow
  refine ⟨max 1 count, ?_, by omega, max_le (by exact_mod_cast one) high⟩
  rw [treesToOffset_eq, treesFor, counted]
  rfl

theorem exists_equivalent {kg : Binary64} (h : kg.UpTo kilogramBits) :
    ∃ text, realWorldEquivalent kg = .ok text := by
  obtain ⟨one, ten, thousand, -, -, phone, ⟨carFinite, car⟩, household, -⟩ := comparison_constants
  unfold realWorldEquivalent
  split
  case isTrue small =>
    have grams := (one.of_le h.nonneg (le_of_lt' small)).mul thousand (by omega)
    obtain ⟨n, rounded⟩ := (grams.div (by omega) phone.1 phone.2).exists_roundToInteger (by omega)
    exact ⟨_, bind_eq_ok_of rounded rfl⟩
  split
  case isTrue small =>
    have few := ten.of_le h.nonneg (le_of_lt' small)
    obtain ⟨low, high⟩ := few.units (by omega)
    have unit := Int.natCast_pos.mpr unitsPerOne_pos
    have distance : (kg / carKgPerKm).UpTo 7 := by
      refine .quotient h.nonneg (few.isFinite (by omega)) (by omega) carFinite (by omega) ?_
      have split (e : Nat) : 2 ^ (e + 7) = 2 ^ (e + 4) * 2 ^ 3 := by rw [← pow_add]
      rw [split]
      generalize 2 ^ (1074 + 4) = bound at high ⊢
      calc
        kg.units * unitsPerOne ≤ bound * (2 ^ 3 * carKgPerKm.units) :=
          mul_le_mul high car unit.le (Int.natCast_nonneg _)
        _ = _ := by push_cast; ring
    obtain ⟨n, rounded⟩ := distance.exists_roundToInteger (by omega)
    exact ⟨_, bind_eq_ok_of rounded rfl⟩
  split
  case isTrue => exact ⟨_, rfl⟩
  obtain ⟨n, rounded⟩ := (h.div (by decide) household.1 household.2).exists_roundToInteger (by decide)
  exact ⟨_, bind_eq_ok_of rounded rfl⟩

/-- Executions that can be projected: those of a year are a double, and so is what they give off. -/
structure Fits (carbon : Binary64) (perDay : Int) : Prop where
  counted : (ofInt (perDay * Period.annual.days)).isFinite = true
  product : (carbon * ofInt (perDay * Period.annual.days)).isFinite = true

variable {m : Metrics} {given perDay : Int}

theorem Fits.of_upTo {carbon : Binary64} {j k : Nat} (h : carbon.UpTo k) (nonneg : 0 ≤ perDay)
    (few : perDay ≤ (2 ^ j : Nat)) (small : k + (j + 9) ≤ 1023) : Fits carbon perDay := by
  have times : (ofInt (perDay * Period.annual.days)).UpTo (j + 9) := by
    refine UpTo.ofRatio Nat.one_pos (by omega) (by rw [Period.days]; omega) ?_
    rw [Period.days, pow_add]
    push_cast at few ⊢
    omega
  exact ⟨times.isFinite (by omega), (h.mul times small).isFinite small⟩

theorem Fits.exists_isFor (h : Fits m.carbon perDay) (finite : m.carbon.isFinite = true)
    (low : 0 ≤ m.carbon) (nonneg : 0 ≤ perDay) (period : Period) :
    ∃ p : Projection, p.IsFor m perDay period ∧ p.co2.UpTo kilogramBits ∧
      1 ≤ p.trees ∧ p.trees ≤ (2 ^ (1011 + 9) : Nat) := by
  obtain ⟨-, -, -, divisor, -⟩ := comparison_constants
  have days := period.days_pos
  have shorter : perDay * period.days ≤ perDay * Period.annual.days :=
    Int.mul_le_mul_of_nonneg_left (by cases period <;> decide) nonneg
  have order := ofRatio_le_ofRatio shorter Nat.one_pos
  have least : 0 ≤ ofInt (perDay * period.days) :=
    ofRatio_le_ofRatio (Int.mul_nonneg nonneg days.le) Nat.one_pos
  have counted := isFinite_of_le_of_le zero_spec.1 h.counted least order
  obtain ⟨product, above⟩ := isFinite_mul_of_le low finite least order h.counted h.product
  have kg : (amount m.carbon perDay period).UpTo kilogramBits :=
    UpTo.div_two_pow (k := kilogramBits) (j := 9) (upTo_of_isFinite above product) product (by decide)
      thousand_spec.1 divisor
  obtain ⟨trees, planted, one, few⟩ := exists_trees (k := 1011) kg (by decide) period
  obtain ⟨equivalent, compared⟩ := exists_equivalent kg
  exact ⟨⟨period, perDay * period.days, m.energy * ofInt (perDay * period.days),
    amount m.carbon perDay period, trees, equivalent⟩,
    ⟨rfl, rfl, counted, rfl, rfl, planted, compared⟩, kg, one, few⟩

theorem exists_summary_iff (finite : m.carbon.isFinite = true) (low : 0 ≤ m.carbon) :
    (∃ s, summary m given = .ok s) ↔ Fits m.carbon (executionsPerDay given) := by
  constructor
  · rintro ⟨s, made⟩
    obtain ⟨projected, h⟩ := summary_eq_ok_iff.mp made
    have annual := h.each .annual
    refine ⟨annual.counted, ?_⟩
    have kg := annual.isFinite_co2
    rw [annual.co2, amount] at kg
    exact isFinite_of_div thousand_spec.1 thousand_spec.2.1 kg
  · intro fits
    have each (period : Period) := fits.exists_isFor finite low (le_max_left 0 given) period
    choose projected isFor using each
    exact ⟨⟨Period.all.map projected, 0, (projected .annual).co2, (projected .annual).co2 * scope3Share⟩,
      summary_eq_ok_iff.mpr ⟨projected, ⟨fun period => (isFor period).1, rfl, rfl, rfl, rfl⟩⟩⟩

theorem Summarizes.bounds {s : ProjectionSummary} {projected : Period → Projection}
    (h : Summarizes s m given projected) (finite : m.carbon.isFinite = true) (low : 0 ≤ m.carbon)
    (period : Period) :
    (projected period).co2.UpTo kilogramBits ∧ 1 ≤ (projected period).trees ∧
      (projected period).trees ≤ (2 ^ (1011 + 9) : Nat) := by
  have fits := (exists_summary_iff finite low).mp ⟨s, summary_eq_ok_iff.mpr ⟨projected, h⟩⟩
  obtain ⟨p, isFor, kilograms, one, few⟩ :=
    fits.exists_isFor finite low (le_max_left 0 given) period
  have own := h.each period
  have co2 : (projected period).co2 = p.co2 := own.co2.trans isFor.co2.symm
  have planted := own.trees
  rw [co2] at planted
  rw [co2, Except.ok.inj (planted.symm.trans isFor.trees)]
  exact ⟨kilograms, one, few⟩

end Projection
end Footprint
