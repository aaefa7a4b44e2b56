import Footprint.Report
import Footprint.Proofs.Projection

/-! The number of executions that a report states, and the one that its projections are for. They are
one number unless less than nothing is asked for. -/
namespace Footprint.Report

open Projection

variable {r : AnalysisResult} {n : Int}

def projected? (document : Json) (name : String) : Option Json :=
  (document.member? "carbonProjections").bind (Json.member? name)

structure Projects (document : Json) (carbon : Binary64) (perDay : Int) : Prop where
  amounts : ∀ period : Period,
    projected? document period.name = some (.float (amount carbon perDay period))
  scope2 : projected? document "scope2" = some (.float (amount carbon perDay .annual))

theorem exists_of_summaryFor {m : Metrics} {s : ProjectionSummary}
    (h : summaryFor m (.int n) = .ok s) : ∃ projected, Summarizes s m n projected := by
  obtain ⟨whole, read, h⟩ := exists_of_bind_eq_ok h
  obtain rfl := Except.ok.inj read
  exact summary_eq_ok_iff.mp (ofArithmetic_eq_ok_iff.mp h)

theorem projectionsDocument_eq {m : Metrics} {s : ProjectionSummary} {projected : Period → Projection}
    (h : Summarizes s m n projected) :
    projectionsDocument s =
      .object ((Period.all.map fun period => (period.name, .float (projected period).co2)) ++
        [("treesToOffset", .int (annualTrees s)), ("scope2", .float s.scope2),
          ("scope3", .float s.scope3)]) := by
  rw [projectionsDocument, h.projections, List.map_map]
  congr 3
  funext period
  rw [Function.comp_apply, (h.each period).period_eq]

theorem projects_of_summarizes {m : Metrics} {s : ProjectionSummary}
    {projected : Period → Projection} (h : Summarizes s m n projected) {document : Json}
    (member : document.member? "carbonProjections" = some (projectionsDocument s)) :
    Projects document m.carbon (executionsPerDay n) where
  amounts period := by
    rw [projected?, member, projectionsDocument_eq h, Option.bind_some, Json.member?,
      List.lookup_append, period.lookup_all, Option.some_or, (h.each period).co2]
  scope2 := by
    have others : (Period.all.map fun period => (period.name, Json.float (projected period).co2)).lookup
        "scope2" = none := rfl
    rw [projected?, member, projectionsDocument_eq h, Option.bind_some, Json.member?,
      List.lookup_append, others, Option.none_or, ← (h.each .annual).co2, ← h.scope2]
    rfl

theorem projects_iff {m : Metrics} {s : ProjectionSummary} {projected : Period → Projection}
    (h : Summarizes s m n projected) {document : Json}
    (shown : Projects document m.carbon (executionsPerDay n)) :
    Projects document m.carbon n ↔ 0 ≤ n := by
  constructor
  · intro stated
    by_contra negative
    have none : executionsPerDay n = 0 := max_eq_left (by omega)
    have finite := (h.each .daily).isFinite_co2
    rw [none] at shown
    rw [(h.each .daily).co2, none] at finite
    have same := (stated.amounts .daily).symm.trans (shown.amounts .daily)
    obtain differs | undefined := amount_ne_of_neg m.carbon (not_le.mp negative)
    · simp only [Option.some.injEq, Json.float.injEq] at same
      exact differs same
    · exact Binary64.ne_nan_of_isFinite finite undefined
  · intro nonneg
    have all : executionsPerDay n = n := max_eq_right nonneg
    rwa [all] at shown

theorem isFor_iff {m : Metrics} {s : ProjectionSummary} {projected : Period → Projection}
    (h : Summarizes s m n projected) :
    (∀ period, (projected period).IsFor m n period) ↔ 0 ≤ n := by
  constructor
  · intro stated
    have used := (h.each .daily).executions.symm.trans (stated .daily).executions
    simp only [executionsPerDay, Period.days, mul_one] at used
    omega
  · intro nonneg
    have all : executionsPerDay n = n := max_eq_right nonneg
    have each := h.each
    rwa [all] at each

/-! ### Documents, records and texts -/

theorem exists_of_document {document : Json} (h : Report.document r (.int n) = .ok document) :
    ∃ s projected, Summarizes s r.metrics n projected ∧
      document.member? "executionsPerDay" = some (.int n) ∧
      document.member? "carbonProjections" = some (projectionsDocument s) := by
  obtain ⟨listed, given, rfl⟩ := exists_of_map_eq_ok h
  obtain ⟨s, summarized, same⟩ := exists_of_bind_eq_ok given
  obtain rfl := Except.ok.inj same
  obtain ⟨projected, summarizes⟩ := exists_of_summaryFor summarized
  exact ⟨s, projected, summarizes, rfl, rfl⟩

theorem exists_of_record {name : String} {size document : Json} {createdAt : Timestamp}
    (h : record r name size (.int n) createdAt = .ok document) :
    ∃ s projected, Summarizes s r.metrics n projected ∧
      document.member? "executionsPerDay" = some (.int n) ∧
      document.member? "carbonProjections" = some (projectionsDocument s) := by
  obtain ⟨s, summarized, same⟩ := exists_of_bind_eq_ok h
  obtain rfl := Except.ok.inj same
  obtain ⟨projected, summarizes⟩ := exists_of_summaryFor summarized
  exact ⟨s, projected, summarizes, rfl, rfl⟩

def executionsLine (stated : Int) : String := "Projections (" ++ toString stated ++ " executions/day):"

theorem exists_of_text {extra : List (String × Json)} {shown : String}
    (h : text r (.int n) extra = .ok shown) :
    ∃ s projected, Summarizes s r.metrics n projected ∧ ∃ before, shown = "\n".intercalate
      (before ++ executionsLine n :: Period.all.map fun period => projectionLine (projected period)) := by
  obtain ⟨-, -, h⟩ := exists_of_bind_eq_ok h
  obtain ⟨s, summarized, same⟩ := exists_of_bind_eq_ok h
  obtain rfl := Except.ok.inj same
  obtain ⟨projected, summarizes⟩ := exists_of_summaryFor summarized
  refine ⟨s, projected, summarizes, headLines r ++ heuristicLines r extra ++ environmentLines r ++
    reviewLines r ++ [""], ?_⟩
  have written : (Json.int n).displayText = toString n := rfl
  simp [projectionLines, summarizes.projections, executionsLine, written, Function.comp_def]

/-- A report states the number of executions that was asked for. Its projections are for that number
where it is not negative, and for no executions where it is: then no amount of the document is the one
for the number that stands beside it. -/
theorem projections_of_stated (r : AnalysisResult) (n : Int) :
    (∀ d, document r (.int n) = .ok d →
      d.member? "executionsPerDay" = some (.int n) ∧ Projects d r.metrics.carbon (max 0 n) ∧
        (Projects d r.metrics.carbon n ↔ 0 ≤ n)) ∧
    (∀ name size createdAt d, record r name size (.int n) createdAt = .ok d →
      d.member? "executionsPerDay" = some (.int n) ∧ Projects d r.metrics.carbon (max 0 n) ∧
        (Projects d r.metrics.carbon n ↔ 0 ≤ n)) ∧
    ∀ extra shown, text r (.int n) extra = .ok shown →
      ∃ (before : List String) (projected : Period → Projection),
        shown = "\n".intercalate (before ++ executionsLine n ::
          Period.all.map fun period => projectionLine (projected period)) ∧
        (∀ period, (projected period).IsFor r.metrics (max 0 n) period) ∧
        ((∀ period, (projected period).IsFor r.metrics n period) ↔ 0 ≤ n) := by
  refine ⟨?_, ?_, ?_⟩
  · intro d h
    obtain ⟨s, projected, summarizes, stated, member⟩ := exists_of_document h
    have shown := projects_of_summarizes summarizes member
    exact ⟨stated, shown, projects_iff summarizes shown⟩
  · intro name size createdAt d h
    obtain ⟨s, projected, summarizes, stated, member⟩ := exists_of_record h
    have shown := projects_of_summarizes summarizes member
    exact ⟨stated, shown, projects_iff summarizes shown⟩
  · intro extra shown h
    obtain ⟨s, projected, summarizes, before, same⟩ := exists_of_text h
    exact ⟨before, projected, same, summarizes.each, isFor_iff summarizes⟩

def tenLines : AnalysisResult where
  metrics := ⟨0.053, 0.72, 368, 10, 1.0, 1.0, false, "js"⟩
  review := ⟨8, "None.", "Cache.", "A little."⟩
  environment := ⟨⟨"europe", "Europe", 1.1, 320, 3⟩, ⟨"laptop", "Laptop / Workstation", 1.0⟩⟩
  branch := .syntaxTree
  fileNames := ["a.js"]
  reviewSource := "fallback"

theorem projections_of_stated_hundred :
    ∃ d, document tenLines (.int 100) = .ok d ∧ Projects d tenLines.metrics.carbon 100 := by
  have made : (document tenLines (.int 100)).toOption.isSome = true := by decide +kernel
  obtain ⟨d, found⟩ := Option.isSome_iff_exists.mp made
  have h := eq_ok_of_toOption found
  exact ⟨d, h, (((projections_of_stated tenLines 100).1 d h).2.2).mpr (by decide)⟩

/-- A document that states five executions below none, with projections for none. -/
theorem projections_of_fewer_than_none :
    ∃ d, document tenLines (.int (-5)) = .ok d ∧ d.member? "executionsPerDay" = some (.int (-5)) ∧
      projected? d "daily" = some (.float (amount tenLines.metrics.carbon 0 .daily)) ∧
      amount tenLines.metrics.carbon 0 .daily = 0 ∧
      amount tenLines.metrics.carbon (-5) .daily = -0.0035999999999999995 ∧
      ¬ Projects d tenLines.metrics.carbon (-5) := by
  have made : (document tenLines (.int (-5))).toOption.isSome = true := by decide +kernel
  obtain ⟨d, found⟩ := Option.isSome_iff_exists.mp made
  have h := eq_ok_of_toOption found
  obtain ⟨s, projected, summarizes, stated, member⟩ := exists_of_document h
  have shown := projects_of_summarizes summarizes member
  refine ⟨d, h, stated, shown.amounts .daily, by decide +kernel, by decide +kernel, ?_⟩
  rw [projects_iff summarizes shown]
  decide

end Footprint.Report
