import Footprint.Proofs.Meter.Failures
import Footprint.Proofs.Pipeline.Records

/-! The log of a request for one file: how far it came shows in the stages that it has recorded. -/
namespace Footprint

def oneFileStages (label : String) : List Event :=
  [.requestStage label .parsing, .unitStage label .scoring, .unitStage label .calculating,
    .requestStage label .reviewing, .requestStage label .complete]

theorem nodup_oneFileStages (label : String) : (oneFileStages label).Nodup := by
  simp [oneFileStages]

namespace Pipeline

variable {σ : Type} {p : Pipeline σ} {r : Request} {u : SourceUnit} {world : σ}

theorem run_fst_of_error {cause : Failure}
    (h : ((p.meter.deeper 1).measure r.clock r.conditions u).outcome = .error cause) :
    (p.run r u world).1 = ⟨.requestStage u.label .parsing ::
      ((p.meter.deeper 1).measure r.clock r.conditions u).events, .error cause⟩ := by
  unfold run
  generalize (p.meter.deeper 1).measure r.clock r.conditions u = x at h ⊢
  obtain ⟨events, outcome⟩ := x
  obtain rfl : outcome = .error cause := h
  rfl

theorem run_fst_of_ok {m : Measurement}
    (h : ((p.meter.deeper 1).measure r.clock r.conditions u).outcome = .ok m) :
    (p.run r u world).1 = ⟨.requestStage u.label .parsing ::
      ((p.meter.deeper 1).measure r.clock r.conditions u).events ++
        (p.review r u.label u.content [m] m.metrics world).1.events,
      (p.review r u.label u.content [m] m.metrics world).1.outcome⟩ := by
  unfold run
  generalize (p.meter.deeper 1).measure r.clock r.conditions u = x at h ⊢
  obtain ⟨events, outcome⟩ := x
  obtain rfl : outcome = .ok m := h
  rfl

variable (world) in
theorem isOk_review_iff {m : Measurement}
    (h : ((p.meter.deeper 1).measure r.clock r.conditions u).outcome = .ok m) :
    (∃ result, (p.review r u.label u.content [m] m.metrics world).1.outcome = .ok result) ↔
      ∃ v, (p.panel.synthesize u.content m.metrics r.cancelled world).1.outcome = .ok v := by
  obtain ⟨-, -, _, _, -, -, figures⟩ := Meter.measure_eq_ok_iff.mp h
  obtain ⟨environment, -, resolved, -, -⟩ := figures.energy
  rw [Meter.environments_deeper] at resolved
  rw [outcome_review, resolved]
  constructor
  · rintro ⟨result, reviewed⟩
    obtain ⟨v, accepted, -⟩ := exists_of_bind_eq_ok reviewed
    exact ⟨v, accepted⟩
  · rintro ⟨v, accepted⟩
    rw [accepted]
    exact ⟨_, rfl⟩

/-- What a request for one file records, by how far it comes: no further than parsing, up to its figures,
up to the review, or to the end. -/
inductive RunLog (label : String) : List Event → Outcome AnalysisResult → Prop
  | unmeasured (cause : Failure) : cause.isOfFigures = true →
    RunLog label [.requestStage label .parsing] (.error cause)
  | uncalculated (cause : Failure) {remarks : List Event} (branch : Branch) (language : String) :
    cause.isOfFigures = true → Remarks remarks →
    RunLog label (.requestStage label .parsing :: remarks ++ [.branchTaken branch language,
      .unitStage label .scoring, .unitStage label .calculating]) (.error cause)
  | reviewed {remarks later : List Event} (branch : Branch) (language : String)
    (outcome : Outcome AnalysisResult) : Remarks remarks → Remarks later →
    RunLog label (.requestStage label .parsing :: remarks ++ [.branchTaken branch language,
      .unitStage label .scoring, .unitStage label .calculating] ++
      .requestStage label .reviewing :: later ++
      match outcome with
      | .ok _ => [.requestStage label .complete]
      | .error _ => []) outcome

theorem runLog_run (p : Pipeline σ) (r : Request) (u : SourceUnit) (world : σ) :
    RunLog u.label (p.run r u world).1.events (p.run r u world).1.outcome := by
  cases measured : ((p.meter.deeper 1).measure r.clock r.conditions u).outcome with
  | error cause =>
    have figures := (p.meter.deeper 1).ofFigures_measure r.clock r.conditions u cause measured
    rw [run_fst_of_error measured]
    obtain ⟨none, -⟩ | ⟨remarks, branch, language, quiet, events⟩ :=
      (p.meter.deeper 1).events_measure r.clock r.conditions u
    · rw [none]
      exact .unmeasured cause figures
    · rw [events]
      exact .uncalculated cause branch language figures quiet
  | ok m =>
    rw [run_fst_of_ok measured]
    obtain ⟨-, cause, failed⟩ | ⟨remarks, branch, language, quiet, events⟩ :=
      (p.meter.deeper 1).events_measure r.clock r.conditions u
    · nomatch failed.symm.trans measured
    · obtain ⟨later, quietly, reviewing⟩ :=
        p.events_review r u.label u.content [m] m.metrics world
      have decided := isOk_review_iff world measured
      rw [events, reviewing]
      generalize (p.review r u.label u.content [m] m.metrics world).1.outcome = outcome at decided ⊢
      generalize (p.panel.synthesize u.content m.metrics r.cancelled world).1.outcome = verdict
        at decided ⊢
      have log : RunLog u.label _ outcome := .reviewed branch language outcome quiet quietly
      cases outcome <;> cases verdict <;> simp_all

namespace RunLog

variable {label : String} {events : List Event} {outcome : Outcome AnalysisResult}

theorem stages_isPrefix (h : RunLog label events outcome) :
    events.filter Event.isStage <+: oneFileStages label := by
  cases h with
  | unmeasured cause => exact ⟨_, rfl⟩
  | uncalculated cause branch language figures quiet =>
    simp [quiet.filter_isStage, oneFileStages]
  | reviewed branch language outcome quiet quietly =>
    cases outcome <;>
      simp [quiet.filter_isStage, quietly.filter_isStage, oneFileStages]

theorem stages_eq_iff (h : RunLog label events outcome) :
    events.filter Event.isStage = oneFileStages label ↔ ∃ result, outcome = .ok result := by
  cases h with
  | unmeasured cause => simp [oneFileStages]
  | uncalculated cause branch language figures quiet =>
    simp [quiet.filter_isStage, oneFileStages]
  | reviewed branch language outcome quiet quietly =>
    cases outcome <;>
      simp [quiet.filter_isStage, quietly.filter_isStage, oneFileStages]

theorem before_scoring {remarks rest before after : List Event} {branch : Branch} {language : String}
    (quiet : Remarks remarks) (once : .unitStage label .scoring ∉ rest)
    (split : .requestStage label .parsing :: remarks ++ [.branchTaken branch language,
      .unitStage label .scoring, .unitStage label .calculating] ++ rest =
      before ++ .unitStage label .scoring :: after) :
    before = .requestStage label .parsing :: remarks ++ [.branchTaken branch language] := by
  have front : .unitStage label .scoring ∉
      .requestStage label .parsing :: remarks ++ [.branchTaken branch language] := by
    simp [quiet.not_mem_unitStage]
  have back : .unitStage label .scoring ∉ .unitStage label .calculating :: rest := by
    simp [once]
  have rearranged : (.requestStage label .parsing :: remarks ++ [.branchTaken branch language]) ++
      .unitStage label .scoring :: .unitStage label .calculating :: rest =
        before ++ .unitStage label .scoring :: after := by
    simpa using split
  exact ((List.append_cons_inj_of_notMem front back).mp rearranged).1.symm

theorem branch_before_scoring (h : RunLog label events outcome) {before after : List Event}
    (split : events = before ++ .unitStage label .scoring :: after) :
    (before.filter Event.isBranch).length = 1 := by
  cases h with
  | unmeasured cause => simp [List.cons_eq_append_iff] at split
  | uncalculated cause branch language figures quiet =>
    rw [← List.append_nil (_ ++ _)] at split
    rw [before_scoring quiet List.not_mem_nil split]
    simp [List.filter_cons, quiet.filter_isBranch]
  | reviewed branch language outcome quiet quietly =>
    rw [List.append_assoc] at split
    rw [before_scoring quiet ?once split]
    · simp [List.filter_cons, quiet.filter_isBranch]
    · cases outcome <;> simp [quietly.not_mem_unitStage]

theorem getLast_of_exhausted (h : RunLog label events outcome) {errors : List String}
    (exhausted : outcome = .error (.reviewersExhausted errors)) :
    (events.filter Event.isStage).getLast? = some (.requestStage label .reviewing) := by
  cases h with
  | unmeasured cause figures | uncalculated cause branch language figures quiet =>
    obtain rfl := Except.error.inj exhausted
    cases figures
  | reviewed branch language outcome quiet quietly =>
    simp [exhausted, quiet.filter_isStage, quietly.filter_isStage]

end RunLog

end Pipeline

end Footprint
