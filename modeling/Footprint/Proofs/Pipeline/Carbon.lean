import Footprint.Proofs.Metrics.Carbon
import Footprint.Proofs.Pipeline.Results

/-! Carbon and energy of a result. A result for one file shows the carbon of the energy that it shows. A
result for several files adds up energies and carbons that were each rounded for one file, so that its carbon
need not be that of its energy; it is off by at most half a hundredth of a gram for each file. -/
namespace Footprint

open Binary64

theorem EnvironmentTables.exists_grid_of_powers {m : Metrics} (h : builtIn.Powers m) :
    ∃ grid : ℕ, m.gridIntensity = grid ∧ grid ≤ 2 ^ 10 := by
  obtain ⟨region, member, hour, found⟩ := h
  obtain ⟨n, foundBounds, low, high⟩ := exists_intensityAt member hour
  obtain rfl := Except.ok.inj (found.symm.trans foundBounds)
  obtain ⟨grid, same⟩ := Int.eq_ofNat_of_zero_le low
  rw [same] at high
  exact ⟨grid, same, Int.ofNat_le.mp high⟩

theorem Metrics.metered_of_measure {meter : Meter} {clock : Int} {c : Conditions} {u : SourceUnit}
    {m : Measurement} (h : (meter.measure clock c u).outcome = .ok m) {grid : ℕ}
    (intensity : m.metrics.gridIntensity = grid) : m.metrics.Metered grid := by
  obtain ⟨-, -, size, lines, -, -, figures⟩ := Meter.measure_eq_ok_iff.mp h
  obtain ⟨environment, thousands, -, -, energy⟩ := figures.energy
  obtain ⟨exact, -, carbon⟩ := exists_of_bind_eq_ok figures.carbon
  exact ⟨intensity, ⟨_, zero_le_max _, energy⟩, ⟨_, zero_le_max _, carbon⟩,
    carbonMatches_of_measure h (intensity ▸ Int.natCast_nonneg grid)⟩

theorem eq_of_roundHalfUp_sum_singleton {raw x a : Binary64} {places : ℕ} (nonneg : 0 ≤ raw)
    (scale : decimalScale places ≤ 2 ^ 10) (rounded : raw.roundHalfUp places = .ok x)
    (fixed : figureLimit.roundHalfUp places = .ok figureLimit)
    (summed : (sum [x]).roundHalfUp places = .ok a) (small : a < figureLimit) : a = x := by
  have low := nonneg_of_roundHalfUp nonneg rounded
  obtain ⟨-, each⟩ := lt_of_roundHalfUp_sum (show ∀ y ∈ [x], 0 ≤ y by simpa using low) fixed summed small
  obtain ⟨count, decimal⟩ := isDecimal_of_roundHalfUp nonneg scale
    (figureLimit_spec.1.of_le low (le_of_lt' (each x List.mem_cons_self))) rounded
  exact Except.ok.inj (summed.symm.trans (roundHalfUp_sum_singleton decimal))

namespace Pipeline

variable {σ : Type} {p : Pipeline σ}

structure AddsUp (p : Pipeline σ) (r : BatchRequest) (ms : List Measurement) (m : Metrics) : Prop where
  alone : Batch.alone p.meter.inWorker r.clock r.conditions r.units = ms.map .ok
  gridIntensity : ∀ x ∈ ms, x.metrics.gridIntensity = m.gridIntensity
  matched : ∀ x ∈ ms, x.metrics.CarbonMatches
  energy : (sum (ms.map fun x => x.metrics.energy)).roundHalfUp (3 : ℕ) = .ok m.energy
  carbon : (sum (ms.map fun x => x.metrics.carbon)).roundHalfUp (2 : ℕ) = .ok m.carbon

theorem exists_measured_of_yields {r : BatchRequest} {result : AnalysisResult} {grid : ℕ}
    (h : p.Yields r result) (intensity : result.metrics.gridIntensity = grid) :
    ∃ ms : List Measurement, Batch.alone p.meter.inWorker r.clock r.conditions r.units = ms.map .ok ∧
      (∀ x ∈ ms, x.metrics.Metered grid) ∧
      Metrics.aggregate (ms.map Measurement.metrics) = .ok result.metrics := by
  obtain ⟨ms, m, world, ⟨measured, aggregated⟩, reviewed⟩ := h
  obtain ⟨rfl, -⟩ := review_eq_ok reviewed
  refine ⟨ms, Batch.alone_of_measureInOrder (Batch.completionOrder_perm _ _ _) measured,
    fun x hx => ?_, aggregated⟩
  obtain ⟨u, -, alone⟩ := (Batch.measureInOrder_eq_ok measured).2 x hx
  refine Metrics.metered_of_measure alone ?_
  cases ms with
  | nil => cases hx
  | cons first rest =>
    -- All files are on the grid that the first one passes on.
    obtain ⟨other, -, head⟩ := (Batch.measureInOrder_eq_ok measured).2 first List.mem_cons_self
    have same := (Meter.gridIntensity_of_measure alone).symm.trans (Meter.gridIntensity_of_measure head)
    rw [Except.ok.inj same, ← intensity, (Metrics.aggregate_eq_ok_iff.mp aggregated).gridIntensity]

theorem addsUp_of_aggregate {r : BatchRequest} {ms : List Measurement} {m : Metrics} {grid : ℕ}
    (alone : Batch.alone p.meter.inWorker r.clock r.conditions r.units = ms.map .ok)
    (intensity : m.gridIntensity = grid) (each : ∀ x ∈ ms, x.metrics.Metered grid)
    (aggregated : Metrics.aggregate (ms.map Measurement.metrics) = .ok m) : p.AddsUp r ms m := by
  cases ms with
  | nil => cases aggregated
  | cons first rest =>
    have figures := Metrics.aggregate_eq_ok_iff.mp aggregated
    have energy := figures.energy
    have carbon := figures.carbon
    rw [← List.map_cons, List.map_map] at energy carbon
    exact ⟨alone, fun x hx => (each x hx).gridIntensity.trans intensity.symm,
      fun x hx => (each x hx).matched, energy, carbon⟩

theorem length_of_alone {r : BatchRequest} {ms : List Measurement}
    (h : Batch.alone p.meter.inWorker r.clock r.conditions r.units = ms.map .ok) : ms.length = r.units.length := by
  have lengths := congrArg List.length h
  simpa [Batch.alone] using lengths.symm

theorem carbonMatches_of_single {r : BatchRequest} {ms : List Measurement} {m : Metrics} {grid : ℕ}
    (sums : p.AddsUp r ms m) (each : ∀ x ∈ ms, x.metrics.Metered grid) (single : r.units.length = 1)
    (energySmall : m.energy < figureLimit) (carbonSmall : m.carbon < figureLimit) : m.CarbonMatches := by
  have fixed : (figureLimit.roundHalfUp (3 : ℕ)).toOption = some figureLimit := by decide +kernel
  obtain ⟨x, rfl⟩ := List.length_eq_one_iff.mp ((length_of_alone sums.alone).trans single)
  have metered := each x List.mem_cons_self
  obtain ⟨rawEnergy, energyNonneg, energyOk⟩ := metered.energy
  obtain ⟨rawCarbon, carbonNonneg, carbonOk⟩ := metered.carbon
  have energy := eq_of_roundHalfUp_sum_singleton energyNonneg (by decide) energyOk
    (eq_ok_of_toOption fixed) sums.energy energySmall
  have carbon := eq_of_roundHalfUp_sum_singleton carbonNonneg (by decide) carbonOk
    (eq_ok_of_toOption figureLimit_spec.2.2) sums.carbon carbonSmall
  have matched := Metrics.carbonMatches_iff.mp metered.matched
  rw [sums.gridIntensity x List.mem_cons_self, ← energy, ← carbon] at matched
  exact Metrics.carbonMatches_iff.mpr matched

def Returns (p : Pipeline σ) (r : BatchRequest) (result : AnalysisResult) : Prop :=
  p.Reached r (.finished (some result)) ∨ ∃ shared, (p.runMany r shared).1.outcome = .ok (some result)

theorem Returns.yields {r : BatchRequest} {result : AnalysisResult} (h : p.Returns r result) :
    p.Yields r result := by
  rcases h with reached | ⟨shared, returned⟩
  · exact reached.derived result rfl
  · exact (reached_of_runMany returned).derived result rfl

/-- On a grid whose intensity is not negative, as it is on all grids of the built-in tables, a result for
one file shows the carbon of the energy and the grid that it shows. A result for several files, also when
others step in between, shows the sum of carbons that are each that of one file's energy on the grid of the
result, beside the sum of these energies. On a grid of up to 1024 grams per kWh and of up to ten thousand kWh
the two are off each other by at most half a hundredth of a gram for each file, and of one file alone they
match again. -/
theorem carbon_of_result (p : Pipeline σ) :
    (∀ r u world result, (p.run r u world).1.outcome = .ok result → 0 ≤ result.metrics.gridIntensity →
      result.metrics.CarbonMatches) ∧
    (∀ r result, p.Returns r result → ∀ grid : ℕ, result.metrics.gridIntensity = grid →
      (∃ ms, p.AddsUp r ms result.metrics) ∧
      (grid ≤ 2 ^ 10 → r.units.length < 2 ^ 16 → result.metrics.energy < Metrics.energyLimit →
        ∃ energy carbon : ℕ, result.metrics.energy = ofRatio energy 1000 ∧
          result.metrics.carbon = ofRatio carbon 100 ∧ Metrics.Near grid energy carbon r.units.length) ∧
      (r.units.length = 1 → result.metrics.energy < figureLimit → result.metrics.carbon < figureLimit →
        result.metrics.CarbonMatches)) ∧
    (p.meter.environments = .builtIn → ∀ result, ((∃ r u world, (p.run r u world).1.outcome = .ok result) ∨
      ∃ r, p.Returns r result) → ∃ grid : ℕ, result.metrics.gridIntensity = grid ∧ grid ≤ 2 ^ 10) := by
  refine ⟨fun r u world result h nonneg => ?_, fun r result h grid intensity => ?_,
    fun tables result h => ?_⟩
  · obtain ⟨m, measured, reviewed⟩ := exists_review_of_run h
    rw [(review_eq_ok reviewed).1] at nonneg ⊢
    exact Metrics.carbonMatches_of_measure measured nonneg
  · obtain ⟨ms, alone, each, aggregated⟩ := exists_measured_of_yields h.yields intensity
    have sums := addsUp_of_aggregate alone intensity each aggregated
    have length := length_of_alone alone
    refine ⟨⟨ms, sums⟩, fun low few small => ?_, carbonMatches_of_single sums each⟩
    have near := Metrics.exists_near_of_aggregate aggregated low (by rwa [List.length_map, length]) (by
      intro x hx
      obtain ⟨m, hm, rfl⟩ := List.mem_map.mp hx
      exact each m hm) small
    rwa [List.length_map, length] at near
  · have powers : p.meter.environments.Powers result.metrics := by
      rcases h with ⟨r, u, world, returned⟩ | ⟨r, returned⟩
      · exact (plain_of_run returned).powers
      · exact (plain_of_yields returned.yields).powers
    rw [tables] at powers
    exact EnvironmentTables.exists_grid_of_powers powers

def threeSized : BatchRequest where
  conditions := { hour := .int 12 }
  clock := 12
  units := ["a.txt", "b.txt", "c.txt"].map fun name => ⟨name, .int 8192, none, "js"⟩

theorem threeSized_result :
    ∃ result, (({} : Pipeline Unit).runMany threeSized { world := () }).1.outcome = .ok (some result) ∧
      result.metrics.energy = 0.003 ∧ result.metrics.carbon = 1.11 ∧ result.metrics.gridIntensity = 368 ∧
      result.metrics.shownCarbon.toOption = some 1.1 := by
  have shown : ((({} : Pipeline Unit).runMany threeSized { world := () }).1.outcome.toOption.join.any
      fun result => result.metrics.energy = 0.003 ∧ result.metrics.carbon = 1.11 ∧
        result.metrics.gridIntensity = 368 ∧ result.metrics.shownCarbon.toOption = some 1.1) = true := by
    decide +kernel
  obtain ⟨result, found, figures⟩ := (Option.any_eq_true _ _).mp shown
  exact ⟨result, eq_ok_of_toOption (Option.join_eq_some_iff.mp found), of_decide_eq_true figures⟩

/-- The carbon of a result over several files need not be that of its energy. -/
theorem not_carbonMatches_of_runMany :
    ¬ ∀ (r : BatchRequest) (shared : Shared Unit) (result : AnalysisResult),
      (({} : Pipeline Unit).runMany r shared).1.outcome = .ok (some result) →
        result.metrics.CarbonMatches := by
  intro always
  obtain ⟨result, returned, -, carbon, -, shown⟩ := threeSized_result
  have matched := always _ _ _ returned
  rw [Metrics.CarbonMatches, carbon] at matched
  rw [matched] at shown
  exact absurd shown (by decide +kernel)

theorem carbon_of_result_threeSized :
    (∃ result, (({} : Pipeline Unit).run threeSized.toRequest ⟨"a.txt", .int 8192, none, "js"⟩ ()).1.outcome =
        .ok result ∧ 0 ≤ result.metrics.gridIntensity ∧ result.metrics.CarbonMatches) ∧
    ∃ result, (({} : Pipeline Unit).runMany threeSized { world := () }).1.outcome = .ok (some result) ∧
      (∃ grid : ℕ, result.metrics.gridIntensity = grid ∧ grid ≤ 2 ^ 10) ∧
      (∃ ms, ({} : Pipeline Unit).AddsUp threeSized ms result.metrics) ∧
      ∃ energy carbon : ℕ, result.metrics.energy = ofRatio energy 1000 ∧
        result.metrics.carbon = ofRatio carbon 100 ∧ Metrics.Near 368 energy carbon 3 := by
  obtain ⟨single, several, grids⟩ := carbon_of_result ({} : Pipeline Unit)
  constructor
  · have shown : ((({} : Pipeline Unit).run threeSized.toRequest
        ⟨"a.txt", .int 8192, none, "js"⟩ ()).1.outcome.toOption.any
          fun result => 0 ≤ result.metrics.gridIntensity) = true := by
      decide +kernel
    obtain ⟨result, found, nonneg⟩ := (Option.any_eq_true _ _).mp shown
    have returned := eq_ok_of_toOption found
    have low := of_decide_eq_true nonneg
    exact ⟨result, returned, low, single _ _ _ result returned low⟩
  · obtain ⟨result, returned, energy, -, intensity, -⟩ := threeSized_result
    obtain ⟨sums, near, -⟩ := several threeSized result (.inr ⟨_, returned⟩) 368 intensity
    exact ⟨result, returned, grids rfl result (.inr ⟨_, .inr ⟨_, returned⟩⟩), sums,
      near (by decide) (by decide) (by rw [energy]; decide +kernel)⟩

end Pipeline
end Footprint
