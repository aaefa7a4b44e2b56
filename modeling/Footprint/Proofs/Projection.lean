import Footprint.Projection
import Footprint.Proofs.Binary64.Sign
import Footprint.Proofs.Outcome

/-! Projections of the figures of one execution: what the summary for a number of executions holds for
each period, and how an amount tells for which number it was scaled. -/
namespace Footprint

open Binary64

namespace Period

variable (period : Period)

theorem mem_all : period ∈ all := by cases period <;> decide

theorem lookup_all {α : Type} (value : Period → α) :
    (all.map fun p => (p.name, value p)).lookup period.name = some (value period) := by
  cases period <;> rfl

def perYear : Binary64 := ofRatio 365 period.days.toNat

theorem isFinite_perYear : period.perYear.isFinite = true := by cases period <;> decide +kernel

theorem perYear_pos : 0 < period.perYear.units := by cases period <;> decide +kernel

theorem days_pos : 0 < period.days := by cases period <;> decide

theorem ofRatio?_days : ofRatio? 365 period.days = .ok period.perYear := by
  have pos := period.days_pos
  have natural : (period.days.toNat : Int) = period.days := Int.toNat_of_nonneg pos.le
  rw [← natural, ofRatio?_eq 365 (by omega)]
  exact refuseInfinite_of_isFinite _ period.isFinite_perYear

end Period

theorem Binary64.ofInt?_eq_ok_iff {n : Int} {x : Binary64} :
    ofInt? n = .ok x ↔ ofInt n = x ∧ x.isFinite = true := by
  constructor
  · exact isFinite_of_refuseInfinite (rank_ofInt n).2
  · rintro ⟨rfl, finite⟩
    exact refuseInfinite_of_isFinite _ finite

namespace Projection

variable {m : Metrics} {perDay given : Int} {period : Period}

/-- The amount over a period, in kg, of so many executions a day that give off so many grams each. -/
def amount (carbon : Binary64) (perDay : Int) (period : Period) : Binary64 :=
  carbon * ofInt (perDay * period.days) / 1000

theorem thousand_spec : (1000 : Binary64).isFinite = true ∧ 0 < (1000 : Binary64).units ∧
    (1000 : Binary64).isNegative = false := by
  decide +kernel

theorem treeKgPerYear_spec : treeKgPerYear.isFinite = true ∧ 0 < treeKgPerYear.units := by
  decide +kernel

def treesFor (kg : Binary64) (period : Period) : Binary64 := kg / treeKgPerYear * period.perYear

theorem treesToOffset_eq (kg : Binary64) (period : Period) :
    treesToOffset kg period.days = (treesFor kg period).ceil?.map fun count => Max.max 1 count := by
  rw [treesToOffset, period.ofRatio?_days]
  rfl

theorem isFinite_of_treesToOffset {kg : Binary64} {trees : Int}
    (h : treesToOffset kg period.days = .ok trees) : kg.isFinite = true := by
  rw [treesToOffset_eq] at h
  obtain ⟨count, counted, -⟩ := exists_of_map_eq_ok h
  have finite := (ceil?_eq_ok_iff.mp counted).1
  rw [treesFor] at finite
  exact isFinite_of_div treeKgPerYear_spec.1 treeKgPerYear_spec.2
    (isFinite_of_mul period.isFinite_perYear period.perYear_pos finite)

structure IsFor (p : Projection) (m : Metrics) (perDay : Int) (period : Period) : Prop where
  period_eq : p.period = period
  executions : p.executions = perDay * period.days
  counted : (ofInt (perDay * period.days)).isFinite = true
  energy : p.energy = m.energy * ofInt (perDay * period.days)
  co2 : p.co2 = amount m.carbon perDay period
  trees : treesToOffset p.co2 period.days = .ok p.trees
  equivalent : realWorldEquivalent p.co2 = .ok p.equivalent

theorem scaled_eq_ok_iff {p : Projection} :
    scaled m perDay period = .ok p ↔ p.IsFor m perDay period := by
  constructor
  · intro h
    obtain ⟨times, converted, h⟩ := exists_of_bind_eq_ok h
    obtain ⟨trees, planted, h⟩ := exists_of_bind_eq_ok h
    obtain ⟨equivalent, compared, h⟩ := exists_of_bind_eq_ok h
    obtain ⟨rfl, finite⟩ := ofInt?_eq_ok_iff.mp converted
    obtain rfl := Except.ok.inj h
    exact ⟨rfl, rfl, finite, rfl, rfl, planted, compared⟩
  · intro h
    obtain ⟨period', executions, energy, co2, trees, equivalent⟩ := p
    obtain ⟨named, counted, finite, used, given, planted, compared⟩ := h
    dsimp only at *
    subst named counted used given
    exact bind_eq_ok_of (ofInt?_eq_ok_iff.mpr ⟨rfl, finite⟩)
      (bind_eq_ok_of planted (bind_eq_ok_of compared rfl))

theorem IsFor.isFinite_co2 {p : Projection} (h : p.IsFor m perDay period) : p.co2.isFinite = true :=
  isFinite_of_treesToOffset h.trees

/-- A summary has one projection for each period, all for the executions a day that are not below zero. -/
structure Summarizes (s : ProjectionSummary) (m : Metrics) (given : Int)
    (projected : Period → Projection) : Prop where
  each : ∀ period, (projected period).IsFor m (executionsPerDay given) period
  projections : s.projections = Period.all.map projected
  scope1 : s.scope1 = 0
  scope2 : s.scope2 = (projected .annual).co2
  scope3 : s.scope3 = (projected .annual).co2 * scope3Share

theorem summary_eq_ok_iff {s : ProjectionSummary} :
    summary m given = .ok s ↔ ∃ projected, Summarizes s m given projected := by
  constructor
  · intro h
    obtain ⟨projections, scaled, h⟩ := exists_of_bind_eq_ok h
    obtain rfl := Except.ok.inj h
    have : Inhabited Projection := ⟨⟨.daily, 0, 0, 0, 0, ""⟩⟩
    obtain ⟨projected, each, rfl⟩ := exists_map_of_mapM scaled
    have each (period : Period) := scaled_eq_ok_iff.mp (each period period.mem_all)
    exact ⟨projected, each, rfl, rfl, rfl, rfl⟩
  · rintro ⟨projected, each, projections, scope1, scope2, scope3⟩
    have scaled : Period.all.mapM (scaled m (executionsPerDay given)) =
        .ok (Period.all.map projected) :=
      mapM_eq_ok_map fun period _ => scaled_eq_ok_iff.mpr (each period)
    refine bind_eq_ok_of scaled ?_
    obtain ⟨listed, first, second, third⟩ := s
    dsimp only at *
    rw [projections, scope1, scope2, scope3]
    rfl

/-! ### The number that an amount was scaled for -/

theorem amount_ne_of_neg (carbon : Binary64) (negative : given < 0) :
    amount carbon given .daily ≠ amount carbon 0 .daily ∨ amount carbon 0 .daily = nan := by
  refine or_iff_not_imp_right.mpr fun number same => ?_
  have sign (n : Int) (h : amount carbon n .daily ≠ nan) :
      (amount carbon n .daily).isNegative = (carbon.isNegative != decide (n < 0)) := by
    have product : carbon * ofInt (n * Period.daily.days) ≠ nan := by
      intro undefined
      rw [amount, undefined] at h
      exact h rfl
    rw [amount, isNegative_div h, isNegative_mul product, thousand_spec.2.2, Bool.bne_false,
      isNegative_ofInt, Period.days, mul_one]
  have left := sign given (by rwa [same])
  rw [same, sign 0 number] at left
  simp [negative] at left

end Projection
end Footprint
