import Footprint.Proofs.Meter.Figures
import Footprint.Proofs.Pipeline.Steps

/-! What is recorded of one file and of one review. Between the stages there are only remarks: how a
content could not be parsed, which reviewers failed. -/
namespace Footprint

namespace Event

@[simp] def isBranch : Event → Bool
  | .branchTaken .. => true
  | _ => false

@[simp] def isUnitStage : Event → Bool
  | .unitStage .. => true
  | _ => false

@[simp] def isRequestStage : Event → Bool
  | .requestStage .. => true
  | _ => false

@[simp] def isStage (e : Event) : Bool := e.isUnitStage || e.isRequestStage

@[simp] def isRemark (e : Event) : Bool := !e.isStage && !e.isBranch

end Event

def Remarks (events : List Event) : Prop := ∀ e ∈ events, e.isRemark = true

namespace Remarks

variable {events : List Event}

theorem nil : Remarks [] := by simp [Remarks]

theorem filter_isStage (h : Remarks events) : events.filter Event.isStage = [] := by
  rw [List.filter_eq_nil_iff]
  intro e he
  have := h e he
  simp_all

theorem filter_isBranch (h : Remarks events) : events.filter Event.isBranch = [] := by
  rw [List.filter_eq_nil_iff]
  intro e he
  have := h e he
  simp_all

theorem filter_isUnitStage (h : Remarks events) : events.filter Event.isUnitStage = [] := by
  rw [List.filter_eq_nil_iff]
  intro e he
  have := h e he
  simp_all

theorem filter_isRequestStage (h : Remarks events) : events.filter Event.isRequestStage = [] := by
  rw [List.filter_eq_nil_iff]
  intro e he
  have := h e he
  simp_all

theorem not_mem_unitStage (h : Remarks events) (label : String) (reached : Stage) :
    .unitStage label reached ∉ events := fun he => nomatch h _ he

end Remarks

/-! ### One file -/

theorem Analysis.remarks_ofContentWith (stack : Signals.CallStack)
    (parse : String → String → Option Syntax.Tree) (parsed : List String) (content language : String) :
    Remarks (Analysis.ofContentWith stack parse parsed content language).2 := by
  unfold Analysis.ofContentWith Analysis.ofTree
  repeat' split
  all_goals simp [Remarks]

theorem Meter.remarks_analysis (meter : Meter) (content : Option String) (language : String) :
    Remarks (meter.analysis content language).2 := by
  cases content with
  | none => exact .nil
  | some text => exact Analysis.remarks_ofContentWith _ _ _ _ _

/-- A file records nothing when its size or its lines cannot be had. Else it takes one branch, is scored
and calculated, whether its figures can be had or not. -/
theorem Meter.events_measure (meter : Meter) (clock : Int) (c : Conditions) (u : SourceUnit) :
    ((meter.measure clock c u).events = [] ∧
        ∃ cause, (meter.measure clock c u).outcome = .error cause) ∨
      ∃ remarks branch language, Remarks remarks ∧ (meter.measure clock c u).events = remarks ++
        [.branchTaken branch language, .unitStage u.label .scoring, .unitStage u.label .calculating] := by
  unfold measure
  cases u.byteCount with
  | error cause => simp
  | ok size =>
    rw [Recorded.lift_ok_bind]
    cases linesOf u.content size with
    | error cause => simp
    | ok lines =>
      refine .inr ⟨((meter.deeper 2).analysis u.content (meter.languages.classify u.name).tag).2,
        (meter.analysisOf u).branch, (meter.languages.classify u.name).tag,
        (meter.deeper 2).remarks_analysis _ _, ?_⟩
      rw [Recorded.lift_arithmetic_ok_bind]
      unfold profile
      simp only [Recorded.bind_ok, Recorded.record, List.append_assoc, List.cons_append, List.nil_append]
      generalize meter.metricsOf clock c size lines _ _ = figures
      cases figures <;> rfl

/-! ### One review -/

namespace Panel

variable {σ : Type}

theorem remarks_consult (source : String) (m : Metrics) (reviewers : List (Reviewer σ))
    (cancelled : Bool) (world : σ) : Remarks (consult source m reviewers cancelled world).1.events := by
  fun_induction consult source m reviewers cancelled world with
  | case1 => exact .nil
  | case2 => exact .nil
  | case3 => exact .nil
  | case4 r rest world answer after asked reason invalid later world' next ih =>
    rw [next] at ih
    simpa [Remarks] using ih

theorem remarks_conclude (panel : Panel σ) (m : Metrics) {c : Consultation} (h : Remarks c.events) :
    Remarks (panel.conclude m c).events := by
  unfold conclude
  split
  · exact h
  · split
    · intro e he
      rcases List.mem_append.mp he with asked | fallback
      · exact h e asked
      · split at fallback <;> simp_all
    · exact h

end Panel

namespace Pipeline

variable {σ : Type} (p : Pipeline σ)

theorem events_review (r : Request) (label : String) (content : Option String) (ms : List Measurement)
    (m : Metrics) (world : σ) :
    ∃ remarks, Remarks remarks ∧ (p.review r label content ms m world).1.events =
      .requestStage label .reviewing :: remarks ++
        match (p.panel.synthesize content m r.cancelled world).1.outcome with
        | .ok _ => [.requestStage label .complete]
        | .error _ => [] := by
  have remarks : Remarks (p.panel.synthesize content m r.cancelled world).1.events :=
    p.panel.remarks_conclude m (Panel.remarks_consult _ _ _ _ _)
  refine ⟨_, remarks, ?_⟩
  unfold review
  dsimp only
  generalize (p.panel.synthesize content m r.cancelled world).1 = verdict
  obtain ⟨events, outcome⟩ := verdict
  cases outcome with
  | error cause => simp [Recorded.record, Recorded.bind_ok, Recorded.bind_error]
  | ok verdict =>
    cases p.meter.environments.resolve r.conditions <;>
      simp [Recorded.record, Recorded.bind_ok, Recorded.pure_def]

end Pipeline
end Footprint
