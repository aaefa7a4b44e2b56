import Footprint.Batch
import Footprint.Pipeline
import Footprint.Proofs.Binary64.HalfUp
import Footprint.Proofs.Binary64.Mean
import Footprint.Proofs.Complexity
import Footprint.Proofs.Meter.Figures
import Footprint.Proofs.Metrics

/-! The bounds of the two factors, and their link with recursion, from the measurement of one file to the
figures of many: rounding keeps them because each bound is a fixed point of it, and taking figures
together keeps them because the combined branch is the most thorough one. -/
namespace Footprint

open Binary64

/-! ### Fixed points of the rounding -/

theorem roundHalfUp_bounds :
    ∀ x ∈ ([1.0, recursiveComplexity, 3.0, 5.0] : List Binary64),
      (x.roundHalfUp (2 : Nat)).toOption = some x := by decide +kernel

theorem roundHalfUp_one : (1.0 : Binary64).roundHalfUp (2 : Nat) = .ok 1.0 :=
  eq_ok_of_toOption (roundHalfUp_bounds _ (by simp))

theorem roundHalfUp_recursiveComplexity :
    recursiveComplexity.roundHalfUp (2 : Nat) = .ok recursiveComplexity :=
  eq_ok_of_toOption (roundHalfUp_bounds _ (by simp))

theorem roundHalfUp_three : (3.0 : Binary64).roundHalfUp (2 : Nat) = .ok 3.0 :=
  eq_ok_of_toOption (roundHalfUp_bounds _ (by simp))

theorem roundHalfUp_five : (5.0 : Binary64).roundHalfUp (2 : Nat) = .ok 5.0 :=
  eq_ok_of_toOption (roundHalfUp_bounds _ (by simp))

namespace Coherent

variable {branch : Branch} {complexity memPressure : Binary64} {recursive : Bool}

theorem round (h : Coherent branch complexity memPressure recursive) {c p : Binary64}
    (hc : complexity.roundHalfUp (2 : Nat) = .ok c) (hp : memPressure.roundHalfUp (2 : Nat) = .ok p) :
    Coherent branch c p recursive := by
  have factor := between_of_roundHalfUp h.one_le_complexity h.complexity_le roundHalfUp_one
    roundHalfUp_five hc
  have pressure := between_of_roundHalfUp h.one_le_pressure h.pressure_le roundHalfUp_one
    roundHalfUp_recursiveComplexity hp
  constructor
  case one_le_complexity => exact factor.1
  case complexity_le => exact factor.2
  case one_le_pressure => exact pressure.1
  case pressure_le => exact pressure.2
  case pressure_eq =>
    intro other
    rw [h.pressure_eq other, roundHalfUp_one] at hp
    exact (Except.ok.inj hp).symm
  case keywords_le =>
    intro keywords
    exact roundHalfUp_le_roundHalfUp (h.keywords_le keywords) hc roundHalfUp_three
  case sizeOnly_eq =>
    intro sizeOnly
    rw [h.sizeOnly_eq sizeOnly, roundHalfUp_one] at hc
    exact (Except.ok.inj hc).symm
  case syntaxTree => exact h.syntaxTree
  case recursive_le =>
    intro found
    exact roundHalfUp_le_roundHalfUp (h.recursive_le found) roundHalfUp_recursiveComplexity hc

theorem complexity_ne_nan (h : Coherent branch complexity memPressure recursive) :
    complexity ≠ nan := (ne_nan_of_le h.complexity_le).1

end Coherent

/-! ### Several files -/

def Metrics.CoherentWith (m : Metrics) (branch : Branch) : Prop :=
  Coherent branch m.complexity m.memPressure m.recursive

def Measurement.IsCoherent (m : Measurement) : Prop := m.metrics.CoherentWith m.branch

theorem combinedBranch_of_mem {ms : List Measurement} {m : Measurement} (h : m ∈ ms)
    (tree : m.branch = .syntaxTree) : combinedBranch (ms.map Measurement.branch) = .syntaxTree := by
  have found : (ms.map Measurement.branch).contains .syntaxTree = true :=
    List.contains_iff_mem.mpr (List.mem_map.mpr ⟨m, h, tree⟩)
  rw [combinedBranch, if_pos found]

theorem branch_eq_sizeOnly {ms : List Measurement}
    (h : combinedBranch (ms.map Measurement.branch) = .sizeOnly) :
    ∀ m ∈ ms, m.branch = .sizeOnly := by
  intro m hm
  unfold combinedBranch at h
  split at h
  · cases h
  split at h
  · cases h
  rename_i noTree noKeywords
  rw [List.contains_iff_mem] at noTree noKeywords
  have member := List.mem_map_of_mem (f := Measurement.branch) hm
  cases branch : m.branch with
  | syntaxTree => exact (noTree (branch ▸ member)).elim
  | keywords => exact (noKeywords (branch ▸ member)).elim
  | sizeOnly => rfl

theorem units_bounds :
    ((1.0 : Binary64).isFinite = true ∧ (1.0 : Binary64).units = (2 : Nat) * 2 ^ 1073) ∧
      (2.5 : Binary64).isFinite = true ∧ (2.5 : Binary64).units = (5 : Nat) * 2 ^ 1073 := by
  decide +kernel

theorem steps_one : Steps (1.0 : Binary64).units 2 1073 := ⟨units_bounds.1.2, by omega⟩

theorem steps_pressureCap : Steps (2.5 : Binary64).units 5 1073 := ⟨units_bounds.2.2, by omega⟩

theorem mean_pressure {pressures : List Binary64} (nonempty : pressures ≠ [])
    (few : pressures.length < 2 ^ 50) (each : ∀ p ∈ pressures, 1.0 ≤ p ∧ p ≤ 2.5) {mean : Binary64}
    (h : (sum pressures / (pressures.length : Binary64)).roundHalfUp (2 : Nat) = .ok mean) :
    1.0 ≤ mean ∧ mean ≤ 2.5 := by
  obtain ⟨low, high⟩ := mean_between steps_one steps_pressureCap units_bounds.1.1
    units_bounds.2.1 (by omega) (by omega) nonempty (by omega) each
  exact between_of_roundHalfUp low high roundHalfUp_one roundHalfUp_recursiveComplexity h

theorem mean_pressure_one {pressures : List Binary64} (nonempty : pressures ≠ [])
    (few : pressures.length < 2 ^ 50) (each : ∀ p ∈ pressures, p = 1.0) {mean : Binary64}
    (h : (sum pressures / (pressures.length : Binary64)).roundHalfUp (2 : Nat) = .ok mean) :
    mean = 1.0 := by
  have bounded : ∀ p ∈ pressures, 1.0 ≤ p ∧ p ≤ 1.0 := by
    intro p hp
    rw [each p hp]
    exact ⟨one_le_one, one_le_one⟩
  obtain ⟨low, high⟩ := mean_between steps_one steps_one units_bounds.1.1 units_bounds.1.1
    (by omega) (by omega) nonempty (by omega) bounded
  obtain ⟨least, most⟩ := between_of_roundHalfUp low high roundHalfUp_one roundHalfUp_one h
  have finite := units_bounds.1.1
  have nonzero : (1.0 : Binary64).units ≠ 0 := by
    rw [units_bounds.1.2]
    positivity
  exact eq_of_le_of_le (isFinite_of_le_of_le finite finite least most) finite nonzero most least

section

variable {ms : List Measurement} {m : Metrics}

theorem complexity_mem_of_aggregate (h : Metrics.aggregate (ms.map Measurement.metrics) = .ok m) :
    ∃ x ∈ ms, x.metrics.complexity = m.complexity := by
  obtain ⟨-, member, -⟩ := Metrics.aggregate_eq_ok h
  rw [List.map_map] at member
  exact List.mem_map.mp member

theorem complexity_le_of_aggregate (each : ∀ x ∈ ms, x.IsCoherent)
    (h : Metrics.aggregate (ms.map Measurement.metrics) = .ok m) :
    ∀ x ∈ ms, x.metrics.complexity ≤ m.complexity := by
  obtain ⟨-, -, greatest, -⟩ := Metrics.aggregate_eq_ok h
  rw [List.map_map] at greatest
  intro x hx
  refine greatest ?_ _ (List.mem_map_of_mem hx)
  rintro c hc rfl
  obtain ⟨y, hy, absurd⟩ := List.mem_map.mp hc
  exact (each y hy).complexity_ne_nan absurd

theorem recursive_of_aggregate (h : Metrics.aggregate (ms.map Measurement.metrics) = .ok m)
    (recursive : m.recursive = true) : ∃ x ∈ ms, x.metrics.recursive = true := by
  obtain ⟨-, -, -, -, any⟩ := Metrics.aggregate_eq_ok h
  rw [any, List.any_map, List.any_eq_true] at recursive
  exact recursive

theorem pressure_of_aggregate (few : ms.length < 2 ^ 50) (each : ∀ x ∈ ms, x.IsCoherent)
    (h : Metrics.aggregate (ms.map Measurement.metrics) = .ok m) :
    (1.0 ≤ m.memPressure ∧ m.memPressure ≤ 2.5) ∧
      ((∀ x ∈ ms, x.branch ≠ .syntaxTree) → m.memPressure = 1.0) := by
  obtain ⟨nonempty, -, -, mean, -⟩ := Metrics.aggregate_eq_ok h
  have count : (ms.map Measurement.metrics).length =
      ((ms.map Measurement.metrics).map Metrics.memPressure).length := (List.length_map _).symm
  rw [count] at mean
  rw [← List.length_map Measurement.metrics, count] at few
  have pressures : (ms.map Measurement.metrics).map Metrics.memPressure ≠ [] := by
    simpa using nonempty
  refine ⟨mean_pressure pressures few ?_ mean, fun other => mean_pressure_one pressures few ?_ mean⟩
  · intro p hp
    rw [List.map_map] at hp
    obtain ⟨x, hx, rfl⟩ := List.mem_map.mp hp
    exact ⟨(each x hx).one_le_pressure, (each x hx).pressure_le⟩
  · intro p hp
    rw [List.map_map] at hp
    obtain ⟨x, hx, rfl⟩ := List.mem_map.mp hp
    exact (each x hx).pressure_eq (other x hx)

theorem coherentWith_aggregate (few : ms.length < 2 ^ 50) (each : ∀ x ∈ ms, x.IsCoherent)
    (h : Metrics.aggregate (ms.map Measurement.metrics) = .ok m) :
    m.CoherentWith (combinedBranch (ms.map Measurement.branch)) := by
  obtain ⟨source, inSource, sourceEq⟩ := complexity_mem_of_aggregate h
  obtain ⟨pressure, pressureOne⟩ := pressure_of_aggregate few each h
  have highest := each source inSource
  unfold Measurement.IsCoherent Metrics.CoherentWith at highest
  rw [sourceEq] at highest
  have noTree (other : combinedBranch (ms.map Measurement.branch) ≠ .syntaxTree) :
      ∀ x ∈ ms, x.branch ≠ .syntaxTree := fun x hx tree => other (combinedBranch_of_mem hx tree)
  constructor
  case one_le_complexity => exact highest.one_le_complexity
  case complexity_le => exact highest.complexity_le
  case one_le_pressure => exact pressure.1
  case pressure_le => exact pressure.2
  case pressure_eq => exact fun other => pressureOne (noTree other)
  case keywords_le =>
    intro keywords
    have other := noTree (by rw [keywords]; nofun) source inSource
    cases branch : source.branch with
    | syntaxTree => exact (other branch).elim
    | keywords => exact highest.keywords_le branch
    | sizeOnly =>
      rw [highest.sizeOnly_eq branch]
      exact one_le_three
  case sizeOnly_eq =>
    intro sizeOnly
    exact highest.sizeOnly_eq (branch_eq_sizeOnly sizeOnly source inSource)
  case syntaxTree =>
    intro recursive
    obtain ⟨x, hx, found⟩ := recursive_of_aggregate h recursive
    exact combinedBranch_of_mem hx ((each x hx).syntaxTree found)
  case recursive_le =>
    intro recursive
    obtain ⟨x, hx, found⟩ := recursive_of_aggregate h recursive
    exact le_trans' ((each x hx).recursive_le found) (complexity_le_of_aggregate each h x hx)

end

/-! ### From the meter on -/

theorem Analysis.consistent_ofTree {stack : Signals.CallStack} {tree : Option Syntax.Tree} {content : String}
    (h : (Analysis.ofTree stack tree content).1.branch = .syntaxTree) :
    (Analysis.ofTree stack tree content).1.signals.Consistent := by
  unfold Analysis.ofTree at h ⊢
  split at h
  · cases h
  · split at h
    · cases h
    · next visited => simpa [visited] using Signals.consistent_of_ofTree? visited

theorem Meter.consistent_analysis {meter : Meter} {content : Option String} {language : String}
    (h : (meter.analysis content language).1.branch = .syntaxTree) :
    (meter.analysis content language).1.signals.Consistent := by
  unfold Meter.analysis at h ⊢
  split at h
  · cases h
  · unfold Analysis.ofContentWith at h ⊢
    split at h
    case isTrue parsed =>
      rw [if_pos parsed]
      exact Analysis.consistent_ofTree h
    case isFalse => cases h

theorem Meter.isCoherent_measure {meter : Meter} (scoring : meter.scoring = {}) {clock : Int}
    {c : Conditions} {u : SourceUnit} {m : Measurement}
    (h : (meter.measure clock c u).outcome = .ok m) : m.IsCoherent := by
  obtain ⟨branch, -, _, _, -, -, figures⟩ := Meter.measure_eq_ok_iff.mp h
  have complexity := figures.complexity
  have pressure := figures.memPressure
  unfold Measurement.IsCoherent Metrics.CoherentWith
  rw [figures.recursive, branch]
  rw [scoring] at complexity pressure ⊢
  exact (Scoring.coherent_profile Meter.consistent_analysis).round complexity pressure

end Footprint
