import Footprint.Pipeline
import Footprint.Proofs.Outcome
import Mathlib.Tactic.SplitIfs

/-! What each step of a request does: where it leads, what becomes of the gate, and whether a warning of a
stale result is recorded. Such a warning comes from the gate alone, never from measuring or reviewing. -/
namespace Footprint

def Event.isStale : Event → Bool
  | .staleResult .. => true
  | _ => false

namespace Recorded

variable {α β : Type}

def Quiet (x : Recorded α) : Prop := ∀ e ∈ x.events, e.isStale = false

theorem quiet_pure (a : α) : Quiet (pure a : Recorded α) := by
  intro e he
  cases he

theorem quiet_ofOutcome (x : Outcome α) : Quiet (ofOutcome x) := by
  intro e he
  cases he

theorem quiet_record {events : List Event} (h : ∀ e ∈ events, e.isStale = false) :
    Quiet (record events) := h

theorem quiet_bind {x : Recorded α} {f : α → Recorded β} (hx : x.Quiet) (hf : ∀ a, (f a).Quiet) :
    (x >>= f).Quiet := by
  obtain ⟨events, outcome⟩ := x
  cases outcome with
  | error cause => exact hx
  | ok a =>
    intro e he
    rw [bind_ok] at he
    rcases List.mem_append.mp he with first | later
    · exact hx e first
    · exact hf a e later

end Recorded

open Recorded

theorem Analysis.quiet_ofContentWith (stack : Signals.CallStack)
    (parse : String → String → Option Syntax.Tree) (parsed : List String) (content language : String) :
    ∀ e ∈ (Analysis.ofContentWith stack parse parsed content language).2, e.isStale = false := by
  unfold Analysis.ofContentWith Analysis.ofTree
  repeat' split
  all_goals simp [Event.isStale]

theorem Meter.quiet_profile (meter : Meter) (content : Option String) (language label : String) :
    (meter.profile content language label).Quiet := by
  intro e he
  rcases List.mem_append.mp he with analysed | later
  · cases content with
    | none => cases analysed
    | some text => exact Analysis.quiet_ofContentWith _ _ _ _ _ e analysed
  · simp only [List.mem_cons, List.not_mem_nil, or_false] at later
    rcases later with rfl | rfl <;> rfl

theorem Meter.quiet_measure (meter : Meter) (clock : Int) (c : Conditions) (u : SourceUnit) :
    (meter.measure clock c u).Quiet := by
  refine quiet_bind (quiet_ofOutcome _) fun size => ?_
  refine quiet_bind (quiet_ofOutcome _) fun lines => ?_
  refine quiet_bind ((meter.deeper 1).quiet_profile _ _ _) fun profiled => ?_
  refine quiet_bind (quiet_record (by simp [Event.isStale])) fun _ => ?_
  exact quiet_bind (quiet_ofOutcome _) fun metrics => quiet_pure _

theorem Batch.quiet_measureInOrder (meter : Meter) (clock : Int) (c : Conditions)
    (units : List SourceUnit) (order : List Nat) :
    (Batch.measureInOrder meter clock c units order).Quiet := by
  intro e he
  obtain ⟨task, completed, inTask⟩ := List.mem_flatMap.mp he
  obtain ⟨i, -, found⟩ := List.mem_filterMap.mp completed
  obtain ⟨u, -, rfl⟩ := Option.map_eq_some_iff.mp found
  exact meter.inWorker.quiet_measure _ _ _ e inTask

namespace Panel

variable {σ : Type}

theorem quiet_consult (source : String) (m : Metrics) (reviewers : List (Reviewer σ))
    (cancelled : Bool) (world : σ) :
    ∀ e ∈ (consult source m reviewers cancelled world).1.events, e.isStale = false := by
  fun_induction consult source m reviewers cancelled world with
  | case1 => simp
  | case2 => simp
  | case3 => simp
  | case4 r rest world answer after asked reason invalid later world' next ih =>
    intro e he
    rcases List.mem_cons.mp he with rfl | tail
    · rfl
    · rw [next] at ih
      exact ih e tail

theorem quiet_conclude (panel : Panel σ) (m : Metrics) {c : Consultation}
    (h : ∀ e ∈ c.events, e.isStale = false) : (panel.conclude m c).Quiet := by
  unfold conclude
  split
  · exact h
  · split
    · intro e he
      rcases List.mem_append.mp he with asked | fallback
      · exact h e asked
      · split at fallback
        · cases fallback
        · obtain rfl := List.mem_singleton.mp fallback
          rfl
    · exact h

end Panel

namespace Gate

theorem isCurrent_iff (gate : Gate) (key : Key) (generation : Nat) :
    gate.isCurrent key generation = true ↔ gate.newest key = generation := by
  unfold isCurrent
  rw [beq_iff_eq]
  omega

theorem accept_of_eq {gate : Gate} {key : Key} {generation : Nat} (h : gate.newest key = generation) :
    gate.accept key generation = (true, []) := by
  rw [accept, if_pos ((gate.isCurrent_iff key generation).mpr h)]

theorem accept_of_ne {gate : Gate} {key : Key} {generation : Nat} (h : gate.newest key ≠ generation) :
    gate.accept key generation = (false, [.staleResult key generation]) := by
  rw [accept, if_neg (mt (gate.isCurrent_iff key generation).mp h)]

end Gate

namespace Pipeline

variable {σ : Type}

theorem quiet_review (p : Pipeline σ) (r : Request) (label : String) (content : Option String)
    (ms : List Measurement) (m : Metrics) (world : σ) :
    (p.review r label content ms m world).1.Quiet := by
  refine quiet_bind (quiet_record (by simp [Event.isStale])) fun _ => ?_
  refine quiet_bind (p.panel.quiet_conclude m (Panel.quiet_consult _ _ _ _ _)) fun verdict => ?_
  refine quiet_bind (quiet_record (by simp [Event.isStale])) fun _ => ?_
  exact quiet_bind (quiet_ofOutcome _) fun environment => quiet_pure _

theorem outcome_review (p : Pipeline σ) (r : Request) (label : String) (content : Option String)
    (ms : List Measurement) (m : Metrics) (world : σ) :
    (p.review r label content ms m world).1.outcome = (do
      let verdict ← (p.panel.synthesize content m r.cancelled world).1.outcome
      let environment ← p.meter.environments.resolve r.conditions
      return {
        metrics := m
        review := verdict.review
        environment
        branch := combinedBranch (ms.map Measurement.branch)
        fileNames := ms.map Measurement.fileName
        reviewSource := verdict.source }) := by
  unfold review
  simp only [Recorded.outcome_bind]
  rfl

/-- A result of a review is made of a verdict of the panel and of the environment of the conditions. -/
theorem exists_of_review {p : Pipeline σ} {r : Request} {label : String} {content : Option String}
    {ms : List Measurement} {m : Metrics} {world : σ} {result : AnalysisResult}
    (h : (p.review r label content ms m world).1.outcome = .ok result) :
    ∃ verdict, (p.panel.synthesize content m r.cancelled world).1.outcome = .ok verdict ∧
      p.meter.environments.resolve r.conditions = .ok result.environment ∧
      result = {
        metrics := m
        review := verdict.review
        environment := result.environment
        branch := combinedBranch (ms.map Measurement.branch)
        fileNames := ms.map Measurement.fileName
        reviewSource := verdict.source } := by
  rw [outcome_review] at h
  obtain ⟨verdict, concluded, h⟩ := exists_of_bind_eq_ok h
  obtain ⟨environment, resolved, h⟩ := exists_of_bind_eq_ok h
  obtain rfl := Except.ok.inj h
  exact ⟨verdict, concluded, resolved, rfl⟩

/-! ### One file -/

section

variable {p : Pipeline σ} {u : SourceUnit} {r : Request}

theorem run_of_error {cause : Failure}
    (h : ((p.meter.deeper 1).measure r.clock r.conditions u).outcome = .error cause) (world : σ) :
    (p.run r u world).1.outcome = .error cause ∧ (p.run r u world).2 = world := by
  have measured : (Recorded.record [.requestStage u.label .parsing] >>= fun _ =>
      (p.meter.deeper 1).measure r.clock r.conditions u).outcome = .error cause := by
    rw [Recorded.outcome_bind, h]
    rfl
  unfold run
  dsimp only
  rw [measured]
  exact ⟨rfl, rfl⟩

theorem run_of_ok {m : Measurement}
    (h : ((p.meter.deeper 1).measure r.clock r.conditions u).outcome = .ok m) (world : σ) :
    (p.run r u world).1.outcome =
        (p.review r u.label u.content [m] m.metrics world).1.outcome ∧
      (p.run r u world).2 = (p.review r u.label u.content [m] m.metrics world).2 := by
  have measured : (Recorded.record [.requestStage u.label .parsing] >>= fun _ =>
      (p.meter.deeper 1).measure r.clock r.conditions u).outcome = .ok m := by
    rw [Recorded.outcome_bind, h]
    rfl
  unfold run
  dsimp only
  rw [measured]
  exact ⟨rfl, rfl⟩

theorem exists_review_of_run {world : σ} {result : AnalysisResult}
    (h : (p.run r u world).1.outcome = .ok result) :
    ∃ m, ((p.meter.deeper 1).measure r.clock r.conditions u).outcome = .ok m ∧
      (p.review r u.label u.content [m] m.metrics world).1.outcome = .ok result := by
  cases measured : ((p.meter.deeper 1).measure r.clock r.conditions u).outcome with
  | error cause => nomatch (run_of_error measured world).1.symm.trans h
  | ok m => exact ⟨m, rfl, (run_of_ok measured world).1.symm.trans h⟩

end

variable (p : Pipeline σ) (r : BatchRequest) (shared : Shared σ)

/-! ### Step by step -/

theorem advance_received :
    p.advance r shared .received =
      if r.units.isEmpty then (.failed .noFiles, shared, [])
      else (.begun (shared.gate.newest r.key + 1), ⟨(shared.gate.begin r.key).2, shared.world⟩,
        [.requestStage r.label .parsing]) := rfl

structure LeadsOn (after : Progress × Shared σ × List Event) (next : Progress → Prop) : Prop where
  progress : (∃ cause, after.1 = .failed cause) ∨ next after.1
  gate : after.2.1.gate = shared.gate
  quiet : ∀ e ∈ after.2.2, e.isStale = false

theorem advance_begun (generation : Nat) :
    LeadsOn shared (p.advance r shared (.begun generation)) fun next =>
      ∃ ms, next = .measured generation ms := by
  have quiet := Batch.quiet_measureInOrder p.meter r.clock r.conditions r.units
    (Batch.completionOrder p.workers r.choices r.units.length)
  rw [advance]
  cases measured : (Batch.measureMany p.meter r.clock r.conditions r.units p.workers
    r.choices).outcome with
  | error cause => exact ⟨.inl ⟨cause, rfl⟩, rfl, quiet⟩
  | ok ms => exact ⟨.inr ⟨ms, rfl⟩, rfl, quiet⟩

theorem advance_measured (generation : Nat) (ms : List Measurement) :
    p.advance r shared (.measured generation ms) =
      if shared.gate.newest r.key = generation then (.confirmed generation ms, shared, [])
      else (.finished none, shared, [.staleResult r.key generation]) := by
  rw [advance]
  split_ifs with current
  · rw [Gate.accept_of_eq current]
  · rw [Gate.accept_of_ne current]

theorem advance_confirmed (generation : Nat) (ms : List Measurement) :
    LeadsOn shared (p.advance r shared (.confirmed generation ms)) fun next =>
      ∃ m, next = .combined generation ms m := by
  have quiet : ∀ e ∈ [Event.requestStage r.label .calculating], e.isStale = false := by
    simp [Event.isStale]
  rw [advance]
  cases Metrics.aggregate (ms.map Measurement.metrics) with
  | error cause => exact ⟨.inl ⟨cause, rfl⟩, rfl, quiet⟩
  | ok m => exact ⟨.inr ⟨m, rfl⟩, rfl, quiet⟩

theorem advance_combined (generation : Nat) (ms : List Measurement) (m : Metrics) :
    LeadsOn shared (p.advance r shared (.combined generation ms m)) fun next =>
      ∃ result, next = .reviewed generation result := by
  have quiet := p.quiet_review r.toRequest r.label (some (combinedContent r.units)) ms m shared.world
  rw [advance]
  dsimp only
  cases reviewed : (p.review r.toRequest r.label (some (combinedContent r.units)) ms m
    shared.world).1.outcome with
  | error cause => exact ⟨.inl ⟨cause, rfl⟩, rfl, quiet⟩
  | ok result => exact ⟨.inr ⟨result, rfl⟩, rfl, quiet⟩

theorem advance_reviewed (generation : Nat) (result : AnalysisResult) :
    p.advance r shared (.reviewed generation result) =
      if shared.gate.newest r.key = generation then (.finished (some result), shared, [])
      else (.finished none, shared, [.staleResult r.key generation]) := by
  rw [advance]
  split_ifs with current
  · rw [Gate.accept_of_eq current]
  · rw [Gate.accept_of_ne current]

/-! ### All steps in a row -/

section

variable {p : Pipeline σ}

def inOneGo (p : Pipeline σ) (r : BatchRequest) (world : σ) : Outcome AnalysisResult := do
  let ms ← (Batch.measureMany p.meter r.clock r.conditions r.units p.workers r.choices).outcome
  let m ← Metrics.aggregate (ms.map Measurement.metrics)
  (p.review r.toRequest r.label (some (combinedContent r.units)) ms m world).1.outcome

variable {r : BatchRequest}

theorem inOneGo_of_ok {ms : List Measurement} {m : Metrics}
    (measured : (Batch.measureMany p.meter r.clock r.conditions r.units p.workers r.choices).outcome = .ok ms)
    (aggregated : Metrics.aggregate (ms.map Measurement.metrics) = .ok m) (world : σ) :
    p.inOneGo r world =
      (p.review r.toRequest r.label (some (combinedContent r.units)) ms m world).1.outcome := by
  rw [inOneGo, measured, ok_bind, aggregated, ok_bind]

theorem gate_accept_begin (gate : Gate) (key : Key) :
    (gate.begin key).2.accept key (gate.begin key).1 = (true, []) :=
  Gate.accept_of_eq (by rw [Gate.newest_begin, if_pos rfl, Gate.begin_fst])

/-- Alone, a request over several files is measured, combined and reviewed, and keeps its result. -/
theorem outcome_runMany (files : r.units.isEmpty = false) (shared : Shared σ) :
    (p.runMany r shared).1.outcome = (p.inOneGo r shared.world).map some := by
  have current := gate_accept_begin shared.gate r.key
  cases measured : (Batch.measureMany p.meter r.clock r.conditions r.units p.workers
    r.choices).outcome with
  | error cause =>
    simp [runMany, inOneGo, stepCount, advances, advance, files, measured, Progress.outcome?, error_bind,
      Except.map]
  | ok ms =>
    cases aggregated : Metrics.aggregate (ms.map Measurement.metrics) with
    | error cause =>
      simp [runMany, inOneGo, stepCount, advances, advance, files, measured, current, aggregated,
        Progress.outcome?, ok_bind, error_bind, Except.map]
    | ok m =>
      cases reviewed : (p.review r.toRequest r.label (some (combinedContent r.units)) ms m
          shared.world).1.outcome <;>
        simp [runMany, inOneGo, stepCount, advances, advance, files, measured, current, aggregated,
          reviewed, Progress.outcome?, ok_bind, Except.map]

theorem outcome_runMany_of_nothing (nothing : r.units.isEmpty = true) (shared : Shared σ) :
    (p.runMany r shared).1.outcome = .error .noFiles := by
  simp [runMany, stepCount, advances, advance, nothing, Progress.outcome?]

end

end Pipeline
end Footprint
