import Footprint.Proofs.Batch
import Footprint.Proofs.Coherence
import Footprint.Proofs.Pipeline.Steps
import Footprint.Proofs.Review

/-! The bounds of every result, for one file or several. A request over several files goes through
steps, and what others do between them shows in what is shared alone, so the invariant is one of the
progress of the request and is kept by each step whatever is shared at the time. -/
namespace Footprint

/-- What every result shows: its factors are coherent with its branch, and when there is recursion the
review that its figures suggest names it, together with the high complexity, at the lowest grade. -/
structure AnalysisResult.Coherent (result : AnalysisResult) : Prop where
  factors : result.metrics.CoherentWith result.branch
  fallback : result.metrics.recursive = true →
    ∃ review, Review.ofMetrics result.metrics = .ok review ∧
      review.optimization = Review.optimizationRecursion ∧
      review.bottleneck = Review.bottleneckHigh ∧ review.score ≤ 5 ∧
      Tier.ofScore review.score = .low

theorem AnalysisResult.coherent_of_factors {result : AnalysisResult}
    (h : result.metrics.CoherentWith result.branch) : result.Coherent where
  factors := h
  fallback recursive := Review.ofMetrics_of_recursive recursive (h.recursive_le recursive) h.complexity_le

def Progress.Coherent : Progress → Prop
  | .received => True
  | .begun _ => True
  | .measured _ ms => ms.length < 2 ^ 50 ∧ ∀ m ∈ ms, m.IsCoherent
  | .confirmed _ ms => ms.length < 2 ^ 50 ∧ ∀ m ∈ ms, m.IsCoherent
  | .combined _ ms m => m.CoherentWith (combinedBranch (ms.map Measurement.branch))
  | .reviewed _ result => result.Coherent
  | .finished result => ∀ r ∈ result, r.Coherent
  | .failed _ => True

theorem Progress.coherent_dropped : (Progress.finished none).Coherent := by
  rintro r ⟨⟩

namespace Pipeline

variable {σ : Type} {p : Pipeline σ}

theorem review_eq_ok {r : Request} {label : String} {content : Option String}
    {ms : List Measurement} {m : Metrics} {world : σ} {result : AnalysisResult}
    (h : (p.review r label content ms m world).1.outcome = .ok result) :
    result.metrics = m ∧ result.branch = combinedBranch (ms.map Measurement.branch) := by
  obtain ⟨verdict, -, -, same⟩ := exists_of_review h
  rw [same]
  exact ⟨rfl, rfl⟩

theorem combinedBranch_singleton (branch : Branch) : combinedBranch [branch] = branch := by
  cases branch <;> rfl

theorem coherent_run (scoring : p.meter.scoring = {}) {r : Request} {u : SourceUnit} {world : σ}
    {result : AnalysisResult} (h : (p.run r u world).1.outcome = .ok result) : result.Coherent := by
  obtain ⟨measurement, measured, reviewed⟩ := exists_review_of_run h
  have same : (p.meter.deeper 1).scoring = {} := scoring
  have coherent : measurement.IsCoherent := Meter.isCoherent_measure same measured
  obtain ⟨metrics, branch⟩ := review_eq_ok reviewed
  refine AnalysisResult.coherent_of_factors ?_
  rw [metrics, branch, List.map_singleton, combinedBranch_singleton]
  exact coherent

theorem coherent_advance (scoring : p.meter.scoring = {}) {r : BatchRequest}
    (few : r.units.length < 2 ^ 50) (shared : Shared σ) {progress : Progress}
    (h : progress.Coherent) : (p.advance r shared progress).1.Coherent := by
  cases progress with
  | received =>
    unfold advance
    dsimp only
    split <;> exact trivial
  | begun generation =>
    unfold advance
    dsimp only
    split
    case h_1 => exact trivial
    case h_2 ms measured =>
      obtain ⟨length, source⟩ := Batch.measureInOrder_eq_ok measured
      refine ⟨length.trans_lt few, fun m hm => ?_⟩
      obtain ⟨u, -, measured⟩ := source m hm
      have same : p.meter.inWorker.scoring = {} := scoring
      exact Meter.isCoherent_measure same measured
  | measured generation ms =>
    unfold advance
    dsimp only
    split
    case h_1 => exact h
    case h_2 => exact Progress.coherent_dropped
  | confirmed generation ms =>
    obtain ⟨length, each⟩ := h
    rw [advance]
    cases aggregated : Metrics.aggregate (ms.map Measurement.metrics) with
    | error => exact trivial
    | ok m => exact coherentWith_aggregate length each aggregated
  | combined generation ms m =>
    unfold advance
    dsimp only
    split
    case h_1 => exact trivial
    case h_2 result reviewed =>
      obtain ⟨metrics, branch⟩ := review_eq_ok reviewed
      refine AnalysisResult.coherent_of_factors ?_
      rw [metrics, branch]
      exact h
  | reviewed generation result =>
    unfold advance
    dsimp only
    split
    case h_1 =>
      rintro other ⟨⟩
      exact h
    case h_2 => exact Progress.coherent_dropped
  | finished => exact h
  | failed => exact trivial

inductive Reached (p : Pipeline σ) (r : BatchRequest) : Progress → Prop
  | received : Reached p r .received
  | advance (shared : Shared σ) {progress : Progress} :
    Reached p r progress → Reached p r (p.advance r shared progress).1

theorem Reached.coherent (scoring : p.meter.scoring = {}) {r : BatchRequest}
    (few : r.units.length < 2 ^ 50) {progress : Progress} (h : p.Reached r progress) :
    progress.Coherent := by
  induction h with
  | received => exact trivial
  | advance shared _ ih => exact coherent_advance scoring few shared ih

theorem Reached.advances {r : BatchRequest} (steps : Nat) {state : Progress × Shared σ × List Event}
    (h : p.Reached r state.1) : p.Reached r (p.advances r steps state).1 := by
  induction steps generalizing state with
  | zero => exact h
  | succ steps ih => exact ih (h.advance state.2.1)

theorem reached_of_runMany {r : BatchRequest} {shared : Shared σ} {result : AnalysisResult}
    (h : (p.runMany r shared).1.outcome = .ok (some result)) :
    p.Reached r (.finished (some result)) := by
  have reached : p.Reached r (p.advances r stepCount (.received, shared, [])).1 :=
    Reached.advances stepCount .received
  unfold runMany at h
  dsimp only at h
  generalize (p.advances r stepCount (.received, shared, [])).1 = progress at h reached
  cases progress with
  | finished other =>
    obtain rfl := Except.ok.inj h
    exact reached
  | _ => cases h

/-- Every result is coherent under the weights and caps that are built in: for one file, for several
in a row of steps, and for several when others step in between. The parser may be any function. -/
theorem coherent_of_result (p : Pipeline σ) (scoring : p.meter.scoring = {}) :
    (∀ r u world result, (p.run r u world).1.outcome = .ok result → result.Coherent) ∧
    (∀ r shared result, r.units.length < 2 ^ 50 →
      (p.runMany r shared).1.outcome = .ok (some result) → result.Coherent) ∧
    (∀ r result, r.units.length < 2 ^ 50 →
      p.Reached r (.finished (some result)) → result.Coherent) := by
  have several (r : BatchRequest) (result : AnalysisResult) (few : r.units.length < 2 ^ 50)
      (h : p.Reached r (.finished (some result))) : result.Coherent :=
    h.coherent scoring few result rfl
  refine ⟨fun r u world result h => coherent_run scoring h, ?_, several⟩
  intro r shared result few h
  exact several r result few (reached_of_runMany h)

/-- A request for a file that declares a function which calls itself, and for one of unknown content. -/
def selfCallRequest : BatchRequest where
  clock := 12
  units := [⟨"f.js", .int 17, some "function f(){f()}", "js"⟩, ⟨"g.js", .int 99, none, "js"⟩]

theorem coherent_of_result_selfCall :
    ∃ result, (({} : Pipeline Unit).runMany selfCallRequest { world := () }).1.outcome =
        .ok (some result) ∧
      result.metrics.recursive = true ∧ result.branch = .syntaxTree ∧ result.Coherent := by
  have shown : ((({} : Pipeline Unit).runMany selfCallRequest { world := () }).1.outcome.toOption.join.any
      fun result => result.metrics.recursive && result.branch == .syntaxTree) = true := by
    decide +kernel
  obtain ⟨result, found, figures⟩ := (Option.any_eq_true _ _).mp shown
  have outcome := eq_ok_of_toOption (Option.join_eq_some_iff.mp found)
  rw [Bool.and_eq_true, beq_iff_eq] at figures
  exact ⟨result, outcome, figures.1, figures.2,
    (coherent_of_result {} rfl).2.1 selfCallRequest { world := () } result (by decide) outcome⟩

end Pipeline
end Footprint
