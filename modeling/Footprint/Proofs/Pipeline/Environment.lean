import Footprint.Proofs.Pipeline.Results
import Footprint.Proofs.Pipeline.Schedule

/-! One environment for each result. The conditions of a request are resolved for the energy of each file,
for the grid, and once more for what is reported; all of them come to the same region and hardware. And
conditions that come to the same are not told apart by any request. -/
namespace Footprint

open Binary64 EnvironmentTables

/-! ### The environment that is reported -/

def Meter.EnergyUnder (meter : Meter) (e : Environment) (u : SourceUnit) (energy : Binary64) : Prop :=
  let profile := meter.scoring.profile (meter.analysisOf u)
  ∃ size lines thousands, u.byteCount = .ok size ∧ linesOf u.content size = .ok lines ∧
    ofRatio? lines 1000 = .ok thousands ∧
    roundEnergy (size / 1024 * meter.energyPerKb * profile.complexity * profile.memPressure *
      (meter.languages.classify u.name).multiplier * e.hardware.factor * e.region.factor *
        (1 + thousands)) = .ok energy

structure Metrics.Under (tables : EnvironmentTables) (clock : Int) (c : Conditions) (e : Environment)
    (m : Metrics) : Prop where
  resolved : tables.resolve c = .ok e
  grid : ∃ hour, hourOf clock c.hour = .ok hour ∧ ScaledAt e.region hour m.gridIntensity

theorem Meter.under_of_measure {meter : Meter} {clock : Int} {c : Conditions} {u : SourceUnit}
    {m : Measurement} (h : (meter.measure clock c u).outcome = .ok m) :
    ∃ e, m.metrics.Under meter.environments clock c e ∧ meter.EnergyUnder e u m.metrics.energy := by
  obtain ⟨-, -, size, lines, sized, counted, figures⟩ := measure_eq_ok_iff.mp h
  obtain ⟨e, thousands, resolved, divided, rounded⟩ := figures.energy
  exact ⟨e, ⟨resolved, scaledAt_of_gridIntensity resolved figures.gridIntensity⟩, size, lines,
    thousands, sized, counted, divided, rounded⟩

namespace Batch

variable {meter : Meter} {clock : Int} {c : Conditions} {e : Environment} {units : List SourceUnit}
  {ms : List Measurement}

theorem resolve_atOneHour (tables : EnvironmentTables) (clock : Int) (c : Conditions) :
    tables.resolve (atOneHour clock c) = tables.resolve c := by
  unfold atOneHour
  split <;> rfl

theorem energies_of_alone (resolved : meter.environments.resolve c = .ok e)
    (each : alone meter clock c units = ms.map .ok) :
    List.Forall₂ (meter.EnergyUnder e) units ((ms.map Measurement.metrics).map Metrics.energy) := by
  induction units generalizing ms with
  | nil =>
    cases ms with
    | nil => exact .nil
    | cons m ms => cases each
  | cons u units ih =>
    cases ms with
    | nil => cases each
    | cons m ms =>
      obtain ⟨first, rest⟩ := List.cons.inj each
      obtain ⟨own, under, energy⟩ := Meter.under_of_measure first
      have resolvedOnce := under.resolved
      rw [resolve_atOneHour, resolved] at resolvedOnce
      obtain rfl := Except.ok.inj resolvedOnce
      exact .cons energy (ih rest)

end Batch

namespace Pipeline

variable {σ : Type} {p : Pipeline σ}

theorem under_of_run {r : Request} {u : SourceUnit} {world : σ} {result : AnalysisResult}
    (h : (p.run r u world).1.outcome = .ok result) :
    result.metrics.Under p.meter.environments r.clock r.conditions result.environment ∧
      (p.meter.deeper 1).EnergyUnder result.environment u result.metrics.energy := by
  obtain ⟨m, measured, reviewed⟩ := exists_review_of_run h
  obtain ⟨metrics, -⟩ := review_eq_ok reviewed
  obtain ⟨-, -, resolved, -⟩ := exists_of_review reviewed
  obtain ⟨e, under, energy⟩ := Meter.under_of_measure measured
  obtain rfl := Except.ok.inj (under.resolved.symm.trans resolved)
  rw [metrics]
  exact ⟨under, energy⟩

/-- The files are on the grid of the environment that is reported, at an hour that is read once, and the
energies that are summed are under it. -/
theorem under_of_yields {r : BatchRequest} {result : AnalysisResult} (h : p.Yields r result) :
    result.metrics.Under p.meter.environments r.clock (Batch.atOneHour r.clock r.conditions) result.environment ∧
      ∃ energies, List.Forall₂ (p.meter.inWorker.EnergyUnder result.environment) r.units energies ∧
        (sum energies).roundHalfUp 3 = .ok result.metrics.energy := by
  obtain ⟨ms, m, world, ⟨measured, aggregated⟩, reviewed⟩ := h
  obtain ⟨rfl, -⟩ := review_eq_ok reviewed
  obtain ⟨-, -, resolved, -⟩ := exists_of_review reviewed
  have each := Batch.alone_of_measureInOrder (Batch.completionOrder_perm _ _ _) measured
  have within : p.meter.inWorker.environments.resolve r.conditions = .ok result.environment := resolved
  have energies := Batch.energies_of_alone within each
  cases ms with
  | nil => cases aggregated
  | cons first rest =>
    have figures := Metrics.aggregate_eq_ok_iff.mp aggregated
    have own : .ok first ∈ Batch.alone p.meter.inWorker r.clock r.conditions r.units := by
      rw [each]
      exact List.mem_cons_self
    obtain ⟨u, -, alone⟩ := List.mem_map.mp own
    have resolvedOnce := (Batch.resolve_atOneHour _ r.clock r.conditions).trans resolved
    refine ⟨⟨resolvedOnce, ?_⟩, _, energies, figures.energy⟩
    rw [figures.gridIntensity]
    have grid := Meter.gridIntensity_of_measure alone
    rw [Meter.environments_inWorker] at grid
    exact scaledAt_of_gridIntensity resolvedOnce grid

/-! ### Conditions that come to the same -/

section

variable {c d : Conditions}

theorem measure_sameConditions {meter : Meter} (same : meter.environments.SameConditions c d) (clock : Int)
    (u : SourceUnit) : meter.measure clock c u = meter.measure clock d u :=
  Meter.measure_congr same.resolve (same.gridIntensity clock) u

variable (same : p.meter.environments.SameConditions c d)

include same

theorem measureMany_sameConditions (clock : Int) (units : List SourceUnit) (limit : Int)
    (choices : List Nat) :
    Batch.measureMany p.meter clock c units limit choices =
      Batch.measureMany p.meter clock d units limit choices := by
  have once : p.meter.inWorker.environments.SameConditions (Batch.atOneHour clock c) (Batch.atOneHour clock d) := by
    unfold Batch.atOneHour
    rw [same.hour]
    split
    · exact ⟨same.region, same.hardware, rfl⟩
    · exact same
  simp only [Batch.measureMany, Batch.measureInOrder, measure_sameConditions once]

theorem review_sameConditions (r : Request) (label : String)
    (content : Option String) (ms : List Measurement) (m : Metrics) (world : σ) :
    p.review { r with conditions := c } label content ms m world =
      p.review { r with conditions := d } label content ms m world := by
  simp only [review, same.resolve]

theorem run_sameConditions (r : Request) (u : SourceUnit) (world : σ) :
    p.run { r with conditions := c } u world = p.run { r with conditions := d } u world := by
  have within : (p.meter.deeper 1).environments.SameConditions c d := same
  simp only [run, measure_sameConditions within, review_sameConditions same]

theorem advance_sameConditions (r : BatchRequest) (shared : Shared σ)
    (progress : Progress) :
    p.advance { r with conditions := c } shared progress =
      p.advance { r with conditions := d } shared progress := by
  cases progress with
  | begun generation => simp only [advance, measureMany_sameConditions same]
  | combined generation ms m =>
    have reviewed := p.review_sameConditions same r.toRequest r.label
      (some (combinedContent r.units)) ms m shared.world
    simp only [advance]
    rw [show BatchRequest.label { r with conditions := c } = r.label from rfl,
      show BatchRequest.label { r with conditions := d } = r.label from rfl, reviewed]
  | _ => rfl

theorem advances_sameConditions (r : BatchRequest) (steps : Nat)
    (state : Progress × Shared σ × List Event) :
    p.advances { r with conditions := c } steps state =
      p.advances { r with conditions := d } steps state := by
  induction steps generalizing state with
  | zero => rfl
  | succ steps ih =>
    simp only [advances, advance_sameConditions same]
    exact ih _

theorem runMany_sameConditions (r : BatchRequest) (shared : Shared σ) :
    p.runMany { r with conditions := c } shared = p.runMany { r with conditions := d } shared := by
  simp only [runMany, advances_sameConditions same]

end

end Pipeline

theorem System.run_congr {σ ι : Type} [DecidableEq ι] {p : Pipeline σ}
    {requests others : ι → BatchRequest}
    (same : ∀ i shared progress,
      p.advance (requests i) shared progress = p.advance (others i) shared progress)
    (s : System σ ι) (schedule : List (Action ι)) :
    s.run p requests schedule = s.run p others schedule := by
  unfold run
  congr 1
  funext s a
  cases a with
  | advance i => simp only [step, same]
  | begin key => rfl

namespace Pipeline

/-- Conditions that no request tells apart: one for a file, one for several, or one of any number of
requests whose steps come in any order. -/
structure Interchangeable {σ : Type} (p : Pipeline σ) (c d : Conditions) : Prop where
  run : ∀ (r : Request) (u : SourceUnit) (world : σ),
    p.run { r with conditions := c } u world = p.run { r with conditions := d } u world
  runMany : ∀ (r : BatchRequest) (shared : Shared σ),
    p.runMany { r with conditions := c } shared = p.runMany { r with conditions := d } shared
  system : ∀ (requests : Nat → BatchRequest) (i : Nat) (r : BatchRequest) (s : System σ Nat)
    (schedule : List (Action Nat)),
    s.run p (Function.update requests i { r with conditions := c }) schedule =
      s.run p (Function.update requests i { r with conditions := d }) schedule

variable {σ : Type} {p : Pipeline σ} {c d : Conditions}

theorem interchangeable_of_same (same : p.meter.environments.SameConditions c d) :
    p.Interchangeable c d where
  run := run_sameConditions same
  runMany := runMany_sameConditions same
  system requests i r := System.run_congr fun j shared progress => by
    by_cases here : j = i
    · subst here
      simp only [Function.update_self, advance_sameConditions same]
    · simp only [Function.update_of_ne here]

/-- A result has one environment: the grid is that of the region that it reports, at the hour, and each
energy in it is with the factors of the region and hardware that it reports.

Values that are alike without case and blanks around mean the same under any tables, and so do any that
are no keys. Under the built-in tables the latter mean Europe and a laptop, and nothing but a text is a
key. -/
theorem one_environment (p : Pipeline σ) :
    (∀ (r : Request) (u : SourceUnit) (world : σ) (result : AnalysisResult),
      (p.run r u world).1.outcome = .ok result →
        result.metrics.Under p.meter.environments r.clock r.conditions result.environment ∧
          (p.meter.deeper 1).EnergyUnder result.environment u result.metrics.energy) ∧
    (∀ (r : BatchRequest) (result : AnalysisResult),
      (p.Reached r (.finished (some result)) ∨
          ∃ shared, (p.runMany r shared).1.outcome = .ok (some result)) →
        result.metrics.Under p.meter.environments r.clock (Batch.atOneHour r.clock r.conditions) result.environment ∧
          ∃ energies, List.Forall₂ (p.meter.inWorker.EnergyUnder result.environment) r.units energies ∧
            (sum energies).roundHalfUp 3 = .ok result.metrics.energy) ∧
    (∀ c d : Conditions, Alike (p.meter.environments.regions.map Prod.fst) c.region d.region →
      Alike (p.meter.environments.hardware.map Prod.fst) c.hardware d.hardware → c.hour = d.hour →
        p.Interchangeable c d) ∧
    (p.meter.environments = builtIn → ∀ c : Conditions,
      (EnvironmentTables.normalize c.region ∉ builtIn.regions.map Prod.fst →
        p.Interchangeable c { c with region := .string "europe" }) ∧
      (EnvironmentTables.normalize c.hardware ∉ builtIn.hardware.map Prod.fst →
        p.Interchangeable c { c with hardware := .string "laptop" })) ∧
    ∀ key : Json, (∀ text, key ≠ .string text) →
      EnvironmentTables.normalize key ∉ builtIn.regions.map Prod.fst ∧
        EnvironmentTables.normalize key ∉ builtIn.hardware.map Prod.fst := by
  refine ⟨fun r u world result => under_of_run, ?_, ?_, ?_, ?_⟩
  · rintro r result (reached | ⟨shared, returned⟩)
    · exact under_of_yields (reached.derived result rfl)
    · exact under_of_yields ((reached_of_runMany returned).derived result rfl)
  · intro c d region hardware hour
    exact interchangeable_of_same (sameConditions_of_alike region hardware hour)
  · intro tables c
    constructor
    · intro unknown
      refine interchangeable_of_same ⟨?_, rfl, rfl⟩
      rw [tables, resolveRegion_of_unknown unknown]
    · intro unknown
      refine interchangeable_of_same ⟨rfl, ?_, rfl⟩
      rw [tables, resolveHardware_of_unknown unknown]
  · intro key other
    have blank : EnvironmentTables.normalize key = "" := by
      cases key with
      | string text => exact absurd rfl (other text)
      | _ => rfl
    rw [blank]
    decide

def unknownConditions : Conditions where
  region := .string " Moon "
  hardware := .int 3
  hour := .int 12

def unknownRequest : Request where
  conditions := unknownConditions
  clock := 7

def sizedFile : SourceUnit := ⟨"a.js", .int 204800, none, "js"⟩

theorem one_environment_unknown :
    ∃ result, (({} : Pipeline Unit).run unknownRequest sizedFile ()).1.outcome = .ok result ∧
      result.environment.region.key = "europe" ∧ result.metrics.energy = 0.112 ∧
      (({} : Meter).deeper 1).EnergyUnder result.environment sizedFile result.metrics.energy ∧
      ({} : Pipeline Unit).Interchangeable unknownConditions
        { unknownConditions with region := .string "europe" } ∧
      ({} : Pipeline Unit).Interchangeable unknownConditions
        { unknownConditions with region := .string "mars" } := by
  have shown : ((({} : Pipeline Unit).run unknownRequest sizedFile ()).1.outcome.toOption.any
      fun result => result.environment.region.key = "europe" ∧ result.metrics.energy = 0.112) = true := by
    decide +kernel
  obtain ⟨result, found, figures⟩ := (Option.any_eq_true _ _).mp shown
  obtain ⟨europe, energy⟩ := of_decide_eq_true figures
  have outcome := eq_ok_of_toOption found
  have nowhere : EnvironmentTables.normalize unknownConditions.region ∉
      builtIn.regions.map Prod.fst := by decide +kernel
  have noPlanet : EnvironmentTables.normalize (.string "mars") ∉ builtIn.regions.map Prod.fst := by
    decide +kernel
  obtain ⟨one, -, alike, defaults, -⟩ := one_environment ({} : Pipeline Unit)
  exact ⟨result, outcome, europe, energy, (one _ _ _ _ outcome).2,
    (defaults rfl unknownConditions).1 nowhere, alike _ _ (.inr ⟨nowhere, noPlanet⟩) (.inl rfl) rfl⟩

end Pipeline
end Footprint
