import Footprint.Proofs.Binary64.FixedPoints
import Footprint.Proofs.Metrics.Range

/-! The figures of one file, taken together as if it were several. They are rounded already, so rounding
their sums and their mean again gives the same figures, as long as they are numbers of few places. -/
namespace Footprint

open Binary64

def figureLimit : Binary64 := ofInt (10 ^ 12)

theorem figureLimit_spec :
    figureLimit.UpTo 40 ∧ 1.0 ≤ figureLimit ∧
      (figureLimit.roundHalfUp (2 : Nat)).toOption = some figureLimit := by
  decide +kernel

namespace Metrics

structure IsRounded (m : Metrics) : Prop where
  energy : ∃ count, m.energy.IsDecimal 3 count
  carbon : ∃ count, m.carbon.IsDecimal 2 count
  memPressure : ∃ count, m.memPressure.IsDecimal 2 count
  one_le_memPressure : 1.0 ≤ m.memPressure

theorem aggregate_singleton {m : Metrics} (h : m.IsRounded) : aggregate [m] = .ok m := by
  obtain ⟨energyCount, energy⟩ := h.energy
  obtain ⟨carbonCount, carbon⟩ := h.carbon
  obtain ⟨pressureCount, pressure⟩ := h.memPressure
  have positive : m.memPressure.units ≠ 0 := by
    have order := rank_le_of_le h.one_le_memPressure
    rw [rank_of_isFinite units_bounds.1.1, rank_of_isFinite pressure.isFinite, units_bounds.1.2] at order
    intro zero
    rw [zero] at order
    exact absurd order (not_le.mpr (by positivity))
  have mean : sum [m.memPressure] / ((1 : Nat) : Binary64) = m.memPressure := by
    have single : sum [m.memPressure] = m.memPressure := pressure.zero_add_eq
    rw [single, div_one_eq pressure.isFinite positive]
  refine aggregate_eq_ok_iff.mpr ?_
  constructor
  case energy => exact roundHalfUp_sum_singleton energy
  case carbon => exact roundHalfUp_sum_singleton carbon
  case lineCount => exact (Int.add_zero _).symm
  case memPressure => exact (congrArg (Binary64.roundHalfUp · (2 : Nat)) mean).trans pressure.roundHalfUp
  case recursive => exact (Bool.or_false _).symm
  case gridIntensity | complexity | language => rfl

end Metrics

theorem Scoring.memPressure_le {scoring : Scoring} (cap : scoring.memoryCap ≤ figureLimit) (a : Analysis) :
    (scoring.profile a).memPressure ≤ figureLimit := by
  obtain ⟨-, one, -⟩ := figureLimit_spec
  unfold profile
  cases a.branch <;> dsimp only
  case keywords | sizeOnly => exact one
  case syntaxTree => exact clamp_le_of_le one cap _

namespace Meter

variable {meter : Meter} {clock : Int} {c : Conditions} {u : SourceUnit} {m : Measurement}

theorem isDecimal_of_roundAmount {x a : Binary64} (places : Nat) (scale : decimalScale places ≤ 2 ^ 10)
    (h : roundAmount x places = .ok a) (small : a < figureLimit) :
    ∃ count, a.IsDecimal places count :=
  isDecimal_of_roundHalfUp (zero_le_max x) scale
    (figureLimit_spec.1.of_le (amount_of_roundAmount places h).2 (le_of_lt' small)) h

theorem isRounded_of_measure (cap : meter.scoring.memoryCap ≤ figureLimit)
    (h : (meter.measure clock c u).outcome = .ok m) (energySmall : m.metrics.energy < figureLimit)
    (carbonSmall : m.metrics.carbon < figureLimit) : m.metrics.IsRounded := by
  obtain ⟨limit, -, fixed⟩ := figureLimit_spec
  obtain ⟨-, -, size, lines, -, -, figures⟩ := measure_eq_ok_iff.mp h
  obtain ⟨environment, thousands, -, -, energy⟩ := figures.energy
  obtain ⟨grid, -, carbon⟩ := exists_of_bind_eq_ok figures.carbon
  have one := (inRange_of_measure h).one_le_memPressure
  have pressure := roundHalfUp_le_roundHalfUp (Scoring.memPressure_le cap _) figures.memPressure
    (eq_ok_of_toOption fixed)
  constructor
  case energy => exact isDecimal_of_roundAmount 3 (by decide) energy energySmall
  case carbon => exact isDecimal_of_roundAmount 2 (by decide) carbon carbonSmall
  case memPressure =>
    exact isDecimal_of_roundHalfUp (le_trans' zero_le_one (meter.scoring.one_le_profile _).2) (by decide)
      (limit.of_le (le_trans' zero_le_one one) pressure) figures.memPressure
  case one_le_memPressure => exact one

end Meter
end Footprint
