import Footprint.Proofs.Batch.Completion
import Footprint.Proofs.Environment
import Footprint.Proofs.Meter.Totality
import Footprint.Proofs.Metrics.Range
import Footprint.Proofs.Pipeline.Bounds
import Footprint.Proofs.Review.Grades

/-! Where a result over several files comes from: the measurements of the files, their figures taken
together, and a review in some world. Whatever others do between the steps, the result shows no more than
that: figures that are finite, a score from 1 to 10, and a region and a hardware of the tables. -/
namespace Footprint

open Binary64

/-! ### Figures -/

structure Metrics.Finite (m : Metrics) : Prop where
  energy : m.energy.isFinite = true
  energy_nonneg : 0 ≤ m.energy
  carbon : m.carbon.isFinite = true
  carbon_nonneg : 0 ≤ m.carbon
  lineCount_nonneg : 0 ≤ m.lineCount
  complexity : m.complexity.isFinite = true
  memPressure : m.memPressure.isFinite = true

theorem Metrics.InRange.finite {m : Metrics} (h : m.InRange) : m.Finite where
  energy := h.energy_finite
  energy_nonneg := h.energy_nonneg
  carbon := h.carbon_finite
  carbon_nonneg := h.carbon_nonneg
  lineCount_nonneg := h.lineCount_nonneg
  complexity := h.complexity_finite
  memPressure := h.memPressure_finite

/-- However many files there are, their figures together are finite, because they have been rounded. -/
theorem Metrics.finite_aggregate {all : List Metrics} {m : Metrics} (each : ∀ x ∈ all, x.Finite)
    (h : aggregate all = .ok m) : m.Finite := by
  cases all with
  | nil => cases h
  | cons first rest =>
    have figures := aggregate_eq_ok_iff.mp h
    have nonneg {f : Metrics → Binary64} (low : ∀ x : Metrics, x.Finite → 0 ≤ f x) :
        0 ≤ sum ((first :: rest).map f) := by
      refine sum_nonneg fun y hy => ?_
      obtain ⟨x, hx, rfl⟩ := List.mem_map.mp hy
      exact low x (each x hx)
    constructor
    case energy => exact isFinite_of_roundHalfUp figures.energy
    case energy_nonneg => exact nonneg_of_roundHalfUp (nonneg fun x hx => hx.energy_nonneg) figures.energy
    case carbon => exact isFinite_of_roundHalfUp figures.carbon
    case carbon_nonneg => exact nonneg_of_roundHalfUp (nonneg fun x hx => hx.carbon_nonneg) figures.carbon
    case lineCount_nonneg =>
      rw [figures.lineCount]
      refine List.sum_nonneg fun lines counted => ?_
      obtain ⟨x, hx, rfl⟩ := List.mem_map.mp counted
      exact (each x hx).lineCount_nonneg
    case complexity =>
      have highest := greatest_mem first.complexity (rest.map Metrics.complexity)
      rw [← figures.complexity, ← List.map_cons (f := Metrics.complexity)] at highest
      obtain ⟨x, hx, same⟩ := List.mem_map.mp highest
      exact same ▸ (each x hx).complexity
    case memPressure => exact isFinite_of_roundHalfUp figures.memPressure

/-! ### Environments -/

def EnvironmentTables.Powers (tables : EnvironmentTables) (m : Metrics) : Prop :=
  ∃ region ∈ tables.regions.map Prod.snd, ∃ hour, intensityAt region hour = .ok m.gridIntensity

def EnvironmentTables.Holds (tables : EnvironmentTables) (e : Environment) : Prop :=
  e.region ∈ tables.regions.map Prod.snd ∧ e.hardware ∈ tables.hardware.map Prod.snd

namespace EnvironmentTables

variable {tables : EnvironmentTables}

theorem mem_of_resolveRegion {key : Json} {region : Region} (h : tables.resolveRegion key = .ok region) :
    region ∈ tables.regions.map Prod.snd := by
  unfold resolveRegion at h
  split at h
  · next found =>
    obtain rfl := Except.ok.inj h
    obtain found | ⟨-, found⟩ := Option.or_eq_some_iff.mp found <;> exact mem_map_snd_of_lookup found
  · cases h

theorem mem_of_resolveHardware {key : Json} {hardware : Hardware}
    (h : tables.resolveHardware key = .ok hardware) : hardware ∈ tables.hardware.map Prod.snd := by
  unfold resolveHardware at h
  split at h
  · next found =>
    obtain rfl := Except.ok.inj h
    obtain found | ⟨-, found⟩ := Option.or_eq_some_iff.mp found <;> exact mem_map_snd_of_lookup found
  · cases h

theorem holds_of_resolve {c : Conditions} {e : Environment} (h : tables.resolve c = .ok e) :
    tables.Holds e := by
  obtain ⟨region, hardware⟩ := resolve_eq_ok_iff.mp h
  exact ⟨mem_of_resolveRegion region, mem_of_resolveHardware hardware⟩

theorem powers_of_gridIntensity {clock : Int} {c : Conditions} {m : Metrics}
    (h : tables.gridIntensity clock c = .ok m.gridIntensity) : tables.Powers m := by
  obtain ⟨region, regionOk, h⟩ := exists_of_bind_eq_ok h
  obtain ⟨hour, -, h⟩ := exists_of_bind_eq_ok h
  exact ⟨region, mem_of_resolveRegion regionOk, hour, ofArithmetic_eq_ok_iff.mp h⟩

theorem powers_aggregate {all : List Metrics} {m : Metrics} (each : ∀ x ∈ all, tables.Powers x)
    (h : Metrics.aggregate all = .ok m) : tables.Powers m := by
  cases all with
  | nil => cases h
  | cons first rest =>
    obtain ⟨region, member, hour, found⟩ := each first List.mem_cons_self
    rw [← (Metrics.aggregate_eq_ok_iff.mp h).gridIntensity] at found
    exact ⟨region, member, hour, found⟩

end EnvironmentTables

/-! ### Results -/

structure AnalysisResult.Plain (tables : EnvironmentTables) (result : AnalysisResult) : Prop where
  finite : result.metrics.Finite
  powers : tables.Powers result.metrics
  graded : result.review.Graded
  environment : tables.Holds result.environment

namespace Pipeline

variable {σ : Type} {p : Pipeline σ}

theorem plain_of_review {r : Request} {label : String} {content : Option String} {ms : List Measurement}
    {m : Metrics} {world : σ} {result : AnalysisResult} (finite : m.Finite)
    (powers : p.meter.environments.Powers m)
    (h : (p.review r label content ms m world).1.outcome = .ok result) :
    result.Plain p.meter.environments := by
  obtain ⟨verdict, concluded, resolved, same⟩ := exists_of_review h
  have environment := EnvironmentTables.holds_of_resolve resolved
  rw [same]
  exact ⟨finite, powers, Panel.graded_of_synthesize concluded, environment⟩

theorem plain_of_run {r : Request} {u : SourceUnit} {world : σ} {result : AnalysisResult}
    (h : (p.run r u world).1.outcome = .ok result) : result.Plain p.meter.environments := by
  obtain ⟨m, measured, reviewed⟩ := exists_review_of_run h
  have grid := Meter.gridIntensity_of_measure measured
  rw [Meter.environments_deeper] at grid
  exact plain_of_review (Meter.inRange_of_measure measured).finite
    (EnvironmentTables.powers_of_gridIntensity grid) reviewed

structure ComesFrom (p : Pipeline σ) (r : BatchRequest) (ms : List Measurement) (m : Metrics) : Prop where
  measured : (Batch.measureMany p.meter r.clock r.conditions r.units p.workers r.choices).outcome = .ok ms
  aggregated : Metrics.aggregate (ms.map Measurement.metrics) = .ok m

def Yields (p : Pipeline σ) (r : BatchRequest) (result : AnalysisResult) : Prop :=
  ∃ ms m world, p.ComesFrom r ms m ∧
    (p.review r.toRequest r.label (some (combinedContent r.units)) ms m world).1.outcome = .ok result

def Derived (p : Pipeline σ) (r : BatchRequest) : Progress → Prop
  | .measured _ ms | .confirmed _ ms =>
    (Batch.measureMany p.meter r.clock r.conditions r.units p.workers r.choices).outcome = .ok ms
  | .combined _ ms m => p.ComesFrom r ms m
  | .reviewed _ result => p.Yields r result
  | .finished result => ∀ given ∈ result, p.Yields r given
  | .received | .begun _ | .failed _ => True

variable {r : BatchRequest}

theorem derived_dropped : p.Derived r (.finished none) := by
  rintro given ⟨⟩

theorem derived_advance (shared : Shared σ) {progress : Progress} (h : p.Derived r progress) :
    p.Derived r (p.advance r shared progress).1 := by
  cases progress with
  | received =>
    rw [advance_received]
    split <;> exact trivial
  | begun generation =>
    rw [advance]
    cases measured : (Batch.measureMany p.meter r.clock r.conditions r.units p.workers
      r.choices).outcome with
    | error => exact trivial
    | ok ms => exact measured
  | measured generation ms =>
    rw [advance_measured]
    split
    · exact h
    · exact derived_dropped
  | confirmed generation ms =>
    rw [advance]
    cases aggregated : Metrics.aggregate (ms.map Measurement.metrics) with
    | error => exact trivial
    | ok m => exact ⟨h, aggregated⟩
  | combined generation ms m =>
    rw [advance]
    dsimp only
    cases reviewed : (p.review r.toRequest r.label (some (combinedContent r.units)) ms m
      shared.world).1.outcome with
    | error => exact trivial
    | ok result => exact ⟨ms, m, shared.world, h, reviewed⟩
  | reviewed generation result =>
    rw [advance_reviewed]
    split
    · rintro given ⟨⟩
      exact h
    · exact derived_dropped
  | finished => exact h
  | failed => exact trivial

theorem Reached.derived {progress : Progress} (h : p.Reached r progress) : p.Derived r progress := by
  induction h with
  | received => exact trivial
  | advance shared _ ih => exact derived_advance shared ih

theorem plain_of_yields {result : AnalysisResult} (h : p.Yields r result) :
    result.Plain p.meter.environments := by
  obtain ⟨ms, m, world, ⟨measured, aggregated⟩, reviewed⟩ := h
  have each : ∀ x ∈ ms.map Measurement.metrics, x.Finite ∧ p.meter.environments.Powers x := by
    intro x hx
    obtain ⟨measurement, member, rfl⟩ := List.mem_map.mp hx
    obtain ⟨u, -, alone⟩ := (Batch.measureInOrder_eq_ok measured).2 measurement member
    have grid := Meter.gridIntensity_of_measure alone
    rw [Meter.environments_inWorker] at grid
    exact ⟨(Meter.inRange_of_measure alone).finite, EnvironmentTables.powers_of_gridIntensity grid⟩
  exact plain_of_review (Metrics.finite_aggregate (fun x hx => (each x hx).1) aggregated)
    (EnvironmentTables.powers_aggregate (fun x hx => (each x hx).2) aggregated) reviewed

theorem Reached.plain {result : AnalysisResult} (h : p.Reached r (.finished (some result))) :
    result.Plain p.meter.environments := plain_of_yields (h.derived result rfl)

end Pipeline
end Footprint
