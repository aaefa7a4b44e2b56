import Footprint.Proofs.Binary64.Mean
import Footprint.Proofs.Binary64.Range
import Footprint.Proofs.Coherence

/-! The range of figures, whatever the tables and factors of a meter are. A factor may be negative,
infinite or no number at all: the clamps and the bound at zero return their own bound for it, and what
comes out beyond all doubles has no rounding, so that there are no figures. -/
namespace Footprint

open Binary64

structure Metrics.InRange (m : Metrics) : Prop where
  energy_finite : m.energy.isFinite = true
  energy_nonneg : 0 ≤ m.energy
  carbon_finite : m.carbon.isFinite = true
  carbon_nonneg : 0 ≤ m.carbon
  lineCount_nonneg : 0 ≤ m.lineCount
  complexity_finite : m.complexity.isFinite = true
  one_le_complexity : 1.0 ≤ m.complexity
  memPressure_finite : m.memPressure.isFinite = true
  one_le_memPressure : 1.0 ≤ m.memPressure

/-! ### One file -/

theorem Scoring.one_le_profile (scoring : Scoring) (a : Analysis) :
    1.0 ≤ (scoring.profile a).complexity ∧ 1.0 ≤ (scoring.profile a).memPressure := by
  unfold profile
  cases a.branch <;> dsimp only
  case keywords => exact ⟨one_le_clamp _ _, one_le_one⟩
  case sizeOnly => exact ⟨one_le_one, one_le_one⟩
  case syntaxTree => exact ⟨one_le_clamp _ _, one_le_clamp _ _⟩

theorem one_le_of_roundHalfUp {x a : Binary64} (least : 1.0 ≤ x)
    (h : x.roundHalfUp (2 : Nat) = .ok a) : 1.0 ≤ a :=
  roundHalfUp_le_roundHalfUp least roundHalfUp_one h

theorem Meter.amount_of_roundAmount {x a : Binary64} (places : Nat)
    (h : roundAmount x places = .ok a) : a.isFinite = true ∧ 0 ≤ a :=
  ⟨isFinite_of_roundHalfUp h, nonneg_of_roundHalfUp (zero_le_max x) h⟩

theorem Meter.amount_of_carbonOf {energy a : Binary64} {intensity : Int}
    (h : carbonOf energy intensity = .ok a) : a.isFinite = true ∧ 0 ≤ a := by
  obtain ⟨grid, -, rounded⟩ := exists_of_bind_eq_ok h
  exact amount_of_roundAmount 2 rounded

theorem SourceUnit.byteCount_nonneg {u : SourceUnit} {size : Binary64}
    (h : u.byteCount = .ok size) : 0 ≤ size := by
  obtain ⟨x, -, rfl⟩ := exists_of_map_eq_ok h
  exact zero_le_max x

theorem linesOf_nonneg {content : Option String} {size : Binary64} (nonneg : 0 ≤ size) {lines : Int}
    (h : linesOf content size = .ok lines) : 0 ≤ lines := by
  cases content with
  | some text =>
    obtain rfl := Except.ok.inj h
    exact Int.natCast_nonneg _
  | none =>
    obtain ⟨zero, finite, pos⟩ : (0 : Binary64) / bytesPerLine = 0 ∧ bytesPerLine.isFinite = true ∧
        0 < bytesPerLine.units := by decide +kernel
    have quotient := div_le_div_right nonneg finite pos
    rw [zero] at quotient
    exact nonneg_of_ceil? quotient h

theorem Meter.inRange_of_measure {meter : Meter} {clock : Int} {c : Conditions} {u : SourceUnit}
    {m : Measurement} (h : (meter.measure clock c u).outcome = .ok m) : m.metrics.InRange := by
  obtain ⟨-, -, size, lines, sized, counted, figures⟩ := measure_eq_ok_iff.mp h
  obtain ⟨environment, thousands, -, -, energy⟩ := figures.energy
  obtain ⟨complexity, pressure⟩ := meter.scoring.one_le_profile (meter.analysisOf u)
  constructor
  case energy_finite => exact (amount_of_roundAmount 3 energy).1
  case energy_nonneg => exact (amount_of_roundAmount 3 energy).2
  case carbon_finite => exact (amount_of_carbonOf figures.carbon).1
  case carbon_nonneg => exact (amount_of_carbonOf figures.carbon).2
  case lineCount_nonneg =>
    rw [figures.lineCount]
    exact linesOf_nonneg (SourceUnit.byteCount_nonneg sized) counted
  case complexity_finite => exact isFinite_of_roundHalfUp figures.complexity
  case one_le_complexity => exact one_le_of_roundHalfUp complexity figures.complexity
  case memPressure_finite => exact isFinite_of_roundHalfUp figures.memPressure
  case one_le_memPressure => exact one_le_of_roundHalfUp pressure figures.memPressure

/-! ### Several files -/

namespace Metrics

theorem forall_mem_map {all : List Metrics} (each : ∀ x ∈ all, x.InRange) {f : Metrics → Binary64}
    {P : Binary64 → Prop} (holds : ∀ x : Metrics, x.InRange → P (f x)) : ∀ y ∈ all.map f, P y := by
  intro y hy
  obtain ⟨x, hx, rfl⟩ := List.mem_map.mp hy
  exact holds x (each x hx)

theorem one_le_mean {terms : List Binary64} (nonempty : terms ≠ []) (few : terms.length < 2 ^ 50)
    (each : ∀ x ∈ terms, 1.0 ≤ x) : 1.0 ≤ sum terms / (terms.length : Binary64) :=
  le_mean steps_one units_bounds.1.1 zero_le_one (by omega) nonempty (by omega) each

theorem inRange_aggregate {all : List Metrics} {m : Metrics} (few : all.length < 2 ^ 50)
    (each : ∀ x ∈ all, x.InRange) (h : aggregate all = .ok m) :
    m.InRange ∧ (∀ x ∈ all, x.complexity ≤ m.complexity) ∧
      m.lineCount = (all.map Metrics.lineCount).sum := by
  cases all with
  | nil => cases h
  | cons first rest =>
    have figures := aggregate_eq_ok_iff.mp h
    have numbers : ∀ x ∈ (first :: rest).map Metrics.complexity, x ≠ nan :=
      forall_mem_map each fun x hx => ne_nan_of_isFinite hx.complexity_finite
    have highest : m.complexity ∈ (first :: rest).map Metrics.complexity := by
      rw [figures.complexity]
      exact greatest_mem _ _
    obtain ⟨top, topIn, topEq⟩ := List.mem_map.mp highest
    have pressures := forall_mem_map each fun x hx => hx.one_le_memPressure
    have mean := one_le_mean (by simp) (by simpa using few) pressures
    rw [List.length_map] at mean
    refine ⟨?_, fun x hx => ?_, figures.lineCount⟩
    · constructor
      case energy_finite => exact isFinite_of_roundHalfUp figures.energy
      case energy_nonneg =>
        exact nonneg_of_roundHalfUp (sum_nonneg (forall_mem_map each fun x hx => hx.energy_nonneg))
          figures.energy
      case carbon_finite => exact isFinite_of_roundHalfUp figures.carbon
      case carbon_nonneg =>
        exact nonneg_of_roundHalfUp (sum_nonneg (forall_mem_map each fun x hx => hx.carbon_nonneg))
          figures.carbon
      case lineCount_nonneg =>
        rw [figures.lineCount]
        refine List.sum_nonneg fun lines hlines => ?_
        obtain ⟨x, hx, rfl⟩ := List.mem_map.mp hlines
        exact (each x hx).lineCount_nonneg
      case complexity_finite => exact topEq ▸ (each top topIn).complexity_finite
      case one_le_complexity => exact topEq ▸ (each top topIn).one_le_complexity
      case memPressure_finite => exact isFinite_of_roundHalfUp figures.memPressure
      case one_le_memPressure => exact one_le_of_roundHalfUp mean figures.memPressure
    · rw [figures.complexity]
      exact le_greatest numbers _ (List.mem_map_of_mem hx)

/-- Under any tables, factors and caps, the figures of a file lie in their range, and so do those of
several files together: no file's complexity is above theirs, and the lines add up. -/
theorem inRange_under_any_meter :
    (∀ (meter : Meter) (clock : Int) (c : Conditions) (u : SourceUnit) (m : Measurement),
      (meter.measure clock c u).outcome = .ok m → m.metrics.InRange) ∧
    ∀ (all : List Metrics) (m : Metrics), all.length < 2 ^ 50 → (∀ x ∈ all, x.InRange) →
      aggregate all = .ok m →
        m.InRange ∧ (∀ x ∈ all, x.complexity ≤ m.complexity) ∧
          m.lineCount = (all.map Metrics.lineCount).sum :=
  ⟨fun _ _ _ _ _ h => Meter.inRange_of_measure h, fun _ _ => inRange_aggregate⟩

def strangeMeter : Meter where
  languages := { LanguageTable.builtIn with default := ⟨"odd", -3.5⟩ }
  parse _ _ := none
  scoring := ⟨0.5, nan, infinite false, nan⟩
  environments := { EnvironmentTables.builtIn with hardware := [("laptop", ⟨"laptop", "Laptop", -1.0⟩)] }
  energyPerKb := -0.5

def strangeLoop : SourceUnit := ⟨"loop.js", .int 1024, some "for (;;) {}\n", "js"⟩

def strangeData : SourceUnit := ⟨"data.bin", .int 4096, none, "odd"⟩

def loopFigures : Metrics := ⟨0.827, 304.34, 368, 2, 1.5, 1.0, false, "js"⟩

def dataFigures : Metrics := ⟨0, 0, 368, 82, 1.0, 1.0, false, "odd"⟩

def bothFigures : Metrics := ⟨0.827, 304.34, 368, 84, 1.5, 1.0, false, "mixed"⟩

theorem figures_of_strangeMeter :
    (strangeMeter.measure 12 {} strangeLoop).outcome.toOption =
        some ⟨loopFigures, .keywords, "loop.js"⟩ ∧
      (strangeMeter.measure 12 {} strangeData).outcome.toOption =
        some ⟨dataFigures, .sizeOnly, "data.bin"⟩ ∧
      (aggregate [loopFigures, dataFigures]).toOption = some bothFigures := by
  decide +kernel

theorem inRange_under_strangeMeter :
    ((strangeMeter.measure 12 {} strangeLoop).outcome = .ok ⟨loopFigures, .keywords, "loop.js"⟩ ∧
      loopFigures.InRange) ∧
    ((strangeMeter.measure 12 {} strangeData).outcome = .ok ⟨dataFigures, .sizeOnly, "data.bin"⟩ ∧
      dataFigures.InRange) ∧
    aggregate [loopFigures, dataFigures] = .ok bothFigures ∧ bothFigures.InRange ∧
      (∀ x ∈ [loopFigures, dataFigures], x.complexity ≤ bothFigures.complexity) ∧
      bothFigures.lineCount = ([loopFigures, dataFigures].map Metrics.lineCount).sum := by
  obtain ⟨loop, data, both⟩ := figures_of_strangeMeter
  have loopOk := eq_ok_of_toOption loop
  have dataOk := eq_ok_of_toOption data
  have bothOk := eq_ok_of_toOption both
  have loopIn := inRange_under_any_meter.1 _ _ _ _ _ loopOk
  have dataIn := inRange_under_any_meter.1 _ _ _ _ _ dataOk
  have each : ∀ x ∈ [loopFigures, dataFigures], x.InRange := by
    intro x hx
    obtain rfl | rfl : x = loopFigures ∨ x = dataFigures := by simpa using hx
    · exact loopIn
    · exact dataIn
  exact ⟨⟨loopOk, loopIn⟩, ⟨dataOk, dataIn⟩, bothOk,
    inRange_under_any_meter.2 _ _ (by decide) each bothOk⟩

end Metrics
end Footprint
