import Footprint.Proofs.Batch.Completion
import Footprint.Proofs.Metrics.Totality
import Footprint.Proofs.Panel.Selection
import Footprint.Proofs.Pipeline.OneFile
import Footprint.Proofs.Pipeline.Results

/-! A request with nothing in between is never dropped. With the built-in meter, and files that are not too
large, nothing but the panel can then stand in the way of a result. -/
namespace Footprint

open Binary64

/-! ### Files that are not too large -/

structure SourceUnit.Within (u : SourceUnit) (k : Nat) : Prop where
  size : ∃ size, u.byteCount = .ok size ∧ size.UpTo k
  content : ∀ text ∈ u.content, text.utf8ByteSize ≤ 2 ^ k

theorem Panel.conclude_cases {σ : Type} (panel : Panel σ) {m : Metrics} {suggested : Review}
    (h : Review.ofMetrics m = .ok suggested) (c : Consultation) :
    (∃ verdict, (panel.conclude m c).outcome = .ok verdict) ∨
      (panel.conclude m c).outcome = .error (.reviewersExhausted c.errors) := by
  by_cases fallback : panel.allowFallback = true
  · exact .inl (exists_conclude fallback h c)
  · cases accepted : c.accepted with
    | some given => exact .inl ⟨_, panel.outcome_conclude_of_accepted m accepted⟩
    | none =>
      rw [panel.outcome_conclude_of_none m accepted, if_neg fallback]
      exact .inr rfl

theorem Batch.exists_hourOf_atOneHour {clock hour : Int} {c : Conditions}
    (told : EnvironmentTables.hourOf clock c.hour = .ok hour) :
    ∃ shared, EnvironmentTables.hourOf clock (Batch.atOneHour clock c).hour = .ok shared := by
  unfold Batch.atOneHour
  split
  · exact ⟨clock % 24, rfl⟩
  · exact ⟨hour, told⟩

def ReviewDecides (outcome : Outcome AnalysisResult) (k : Nat) : Prop :=
  (∃ result, outcome = .ok result ∧ result.metrics.UpTo k) ∨
    ∃ errors, outcome = .error (.reviewersExhausted errors)

namespace Pipeline

variable {σ : Type} {p : Pipeline σ} {parse : String → String → Option Syntax.Tree}
  {stack : Signals.CallStack}

theorem reviewDecides_review (builtIn : p.meter = { parse, stack }) {r : Request} {label : String}
    {content : Option String} {ms : List Measurement} {m : Metrics} {k : Nat} (up : m.UpTo k)
    (low : 1.0 ≤ m.complexity) (high : m.complexity ≤ 5.0) (world : σ) :
    ReviewDecides (p.review r label content ms m world).1.outcome k := by
  obtain ⟨suggested, ok⟩ := Review.exists_ofMetrics low high
  obtain ⟨environment, found, -⟩ := Meter.exists_resolve_builtIn r.conditions
  have resolved : p.meter.environments.resolve r.conditions = .ok environment := by rwa [builtIn]
  rw [outcome_review, Panel.synthesize_fst]
  obtain ⟨verdict, concluded⟩ | exhausted := p.panel.conclude_cases ok
    (Panel.consult (Panel.truncate content p.panel.maxChars) m p.panel.reviewers r.cancelled world).1
  · rw [concluded, ok_bind, resolved]
    exact .inl ⟨_, rfl, up⟩
  · rw [exhausted]
    exact .inr ⟨_, rfl⟩

theorem reviewDecides_run (builtIn : p.meter = { parse, stack }) {r : Request} {u : SourceUnit} {hour : Int}
    (told : EnvironmentTables.hourOf r.clock r.conditions.hour = .ok hour) {k : Nat}
    (small : 2 * k + 40 ≤ 1023) (within : u.Within k) (world : σ) :
    ReviewDecides (p.run r u world).1.outcome (2 * k + 40) := by
  obtain ⟨size, sized, up⟩ := within.size
  obtain ⟨m, measured, figures⟩ :=
    Meter.exists_measure parse (stack.enter 1) told small sized up within.content
  have called : { parse, stack := stack.enter 1 } = p.meter.deeper 1 := by rw [builtIn]; rfl
  rw [called] at measured
  have coherent := Meter.isCoherent_measure (by rw [← called]) measured
  rw [(run_of_ok measured world).1]
  exact reviewDecides_review builtIn figures coherent.one_le_complexity coherent.complexity_le world

theorem reviewDecides_inOneGo (builtIn : p.meter = { parse, stack }) {r : BatchRequest} {hour : Int}
    (told : EnvironmentTables.hourOf r.clock r.conditions.hour = .ok hour) {k : Nat}
    (small : 2 * k + 40 ≤ 900) (files : r.units ≠ []) (few : r.units.length < 2 ^ 50)
    (within : ∀ u ∈ r.units, u.Within k) (world : σ) :
    ReviewDecides (p.inOneGo r world) (2 * k + 101) := by
  obtain ⟨shared, told⟩ := Batch.exists_hourOf_atOneHour told
  have measure (u : SourceUnit) (listed : u ∈ r.units) : ∃ m : Measurement,
      (p.meter.inWorker.measure r.clock (Batch.atOneHour r.clock r.conditions) u).outcome = .ok m ∧
        m.IsCoherent ∧ m.metrics.UpTo (2 * k + 40) := by
    obtain ⟨size, sized, up⟩ := (within u listed).size
    obtain ⟨m, measured, figures⟩ :=
      Meter.exists_measure parse stack.worker told (by omega) sized up (within u listed).content
    have called : { parse, stack := stack.worker } = p.meter.inWorker := by rw [builtIn]; rfl
    rw [called] at measured
    exact ⟨m, measured, Meter.isCoherent_measure (by rw [← called]) measured, figures⟩
  have succeeded : ∀ o ∈ Batch.alone p.meter.inWorker r.clock r.conditions r.units, ∃ m, o = .ok m := by
    intro o member
    obtain ⟨u, listed, rfl⟩ := List.mem_map.mp member
    obtain ⟨m, measured, -⟩ := measure u listed
    exact ⟨m, measured⟩
  obtain ⟨ms, each⟩ := exists_map_ok succeeded
  have figures : ∀ m ∈ ms, m.IsCoherent ∧ m.metrics.UpTo (2 * k + 40) := by
    intro m member
    have own : .ok m ∈ Batch.alone p.meter.inWorker r.clock r.conditions r.units :=
      each ▸ List.mem_map_of_mem member
    obtain ⟨u, listed, measured⟩ := List.mem_map.mp own
    obtain ⟨other, same, bounds⟩ := measure u listed
    rwa [Except.ok.inj (measured.symm.trans same)]
  have length : ms.length = r.units.length := by
    have lengths := congrArg List.length each
    simpa [Batch.alone] using lengths.symm
  have measured := Batch.measureInOrder_of_ok
    (Batch.completionOrder_perm p.workers r.choices r.units.length) each
  have none : ms ≠ [] := by
    rintro rfl
    exact files (List.length_eq_zero_iff.mp length.symm)
  rw [← length] at few
  have bounded : ∀ x ∈ ms.map Measurement.metrics,
      x.UpTo (2 * k + 40) ∧ 1.0 ≤ x.memPressure ∧ x.memPressure ≤ 2.5 := by
    intro x member
    obtain ⟨m, listed, rfl⟩ := List.mem_map.mp member
    obtain ⟨coherent, up⟩ := figures m listed
    exact ⟨up, coherent.one_le_pressure, coherent.pressure_le⟩
  obtain ⟨m, aggregated, up⟩ := Metrics.exists_aggregate (by simpa using none) (by simpa using few)
    (fun x member => (bounded x member).1) small fun x member => (bounded x member).2
  have coherent := coherentWith_aggregate few (fun m member => (figures m member).1) aggregated
  rw [inOneGo_of_ok measured aggregated]
  exact reviewDecides_review builtIn up coherent.one_le_complexity coherent.complexity_le world

end Pipeline
end Footprint
