import Footprint.Proofs.Pipeline.Results
import Footprint.Proofs.Projection.Range
import Footprint.Proofs.Report.Executions

/-! Integers that have few enough digits to be written. Of the integers in a report only two can be too
long: the lines of the files and the executions that are asked for. -/
namespace Footprint

/-! ### Values -/

namespace Json

def Short (n : Int) : Prop := (Json.int n).isWritable = true

theorem short_iff {n : Int} : Short n ↔ n.natAbs < Nat.pow 10 Decimal.digitLimit := by
  rw [Short, isWritable, decide_eq_true_iff]

theorem short_of_le_two_pow {n : Int} {k : Nat} (h : n.natAbs ≤ 2 ^ k) (small : k ≤ Decimal.digitLimit) :
    Short n := by
  have positive : Decimal.digitLimit ≠ 0 := by decide
  rw [short_iff]
  generalize Decimal.digitLimit = digits at small positive ⊢
  have power : 2 ^ k < 10 ^ digits :=
    (Nat.pow_le_pow_right (by decide) small).trans_lt (Nat.pow_lt_pow_left (by decide) positive)
  exact h.trans_lt power

@[simp] theorem isWritable_bool (b : Bool) : (Json.bool b).isWritable = true := rfl

@[simp] theorem isWritable_float (x : Binary64) : (Json.float x).isWritable = true := rfl

@[simp] theorem isWritable_string (s : String) : (Json.string s).isWritable = true := rfl

@[simp] theorem isWritable_array (items : List Json) :
    (Json.array items).isWritable = areWritable items := rfl

@[simp] theorem isWritable_object (members : List (String × Json)) :
    (Json.object members).isWritable = membersWritable members := rfl

@[simp] theorem membersWritable_nil : membersWritable [] = true := rfl

@[simp] theorem membersWritable_cons (m : String × Json) (members : List (String × Json)) :
    membersWritable (m :: members) = (m.2.isWritable && membersWritable members) := rfl

@[simp] theorem membersWritable_append (first second : List (String × Json)) :
    membersWritable (first ++ second) = (membersWritable first && membersWritable second) := by
  induction first with
  | nil => rfl
  | cons m rest ih => simp [ih, Bool.and_assoc]

@[simp] theorem areWritable_nil : areWritable [] = true := rfl

@[simp] theorem areWritable_cons (item : Json) (items : List Json) :
    areWritable (item :: items) = (item.isWritable && areWritable items) := rfl

@[simp] theorem areWritable_append (first second : List Json) :
    areWritable (first ++ second) = (areWritable first && areWritable second) := by
  induction first with
  | nil => rfl
  | cons item rest ih => simp [ih, Bool.and_assoc]

@[simp] theorem areWritable_strings (names : List String) : areWritable (names.map Json.string) = true := by
  induction names with
  | nil => rfl
  | cons name rest ih => exact ih

@[simp] theorem membersWritable_floats {α : Type} (name : α → String) (value : α → Binary64) (items : List α) :
    membersWritable (items.map fun a => (name a, Json.float (value a))) = true := by
  induction items with
  | nil => rfl
  | cons item rest ih => exact ih

theorem writable_eq_ok_iff {value written : Json} :
    value.writable = .ok written ↔ value = written ∧ value.isWritable = true := by
  unfold writable
  split <;> simp_all

end Json

/-! ### Reports -/

namespace Report

open Json Projection

theorem short_builtIn : ∀ r ∈ EnvironmentTables.builtIn.regions.map Prod.snd,
    r.intensity.natAbs ≤ 2 ^ 10 ∧ r.bestHour.natAbs ≤ 2 ^ 10 := by
  decide

variable {r : AnalysisResult} {n : Int}

theorem short_small {n : Int} (h : n.natAbs ≤ 2 ^ 10) : Short n :=
  short_of_le_two_pow h (by decide)

theorem short_score (h : r.review.Graded) : Short r.review.score := by
  obtain ⟨low, high⟩ := h
  exact short_small (by omega)

theorem short_gridIntensity (h : r.Plain .builtIn) : Short r.metrics.gridIntensity := by
  obtain ⟨region, member, hour, found⟩ := h.powers
  obtain ⟨intensity, same, low, high⟩ := EnvironmentTables.exists_intensityAt member hour
  obtain rfl := Except.ok.inj (found.symm.trans same)
  exact short_small (by omega)

theorem annualTrees_eq {m : Metrics} {s : ProjectionSummary} {projected : Period → Projection}
    (h : Summarizes s m n projected) : annualTrees s = (projected .annual).trees := by
  have named (period : Period) : (projected period).period = period := (h.each period).period_eq
  simp [annualTrees, ProjectionSummary.byPeriod?, h.projections, Period.all, named, Period.name]

theorem short_annualTrees {m : Metrics} {s : ProjectionSummary} (finite : m.Finite)
    (h : summaryFor m (.int n) = .ok s) : Short (annualTrees s) := by
  obtain ⟨projected, summarizes⟩ := exists_of_summaryFor h
  obtain ⟨-, low, high⟩ := summarizes.bounds finite.carbon finite.carbon_nonneg .annual
  rw [annualTrees_eq summarizes]
  have bounded : (projected .annual).trees.natAbs ≤ 2 ^ (1011 + 9) := by
    generalize 2 ^ (1011 + 9) = most at high ⊢
    omega
  exact short_of_le_two_pow bounded (by decide)

theorem short_of_plain (plain : r.Plain .builtIn) :
    Short r.metrics.gridIntensity ∧ Short r.review.score ∧ Short r.environment.region.intensity ∧
      Short r.environment.region.bestHour := by
  obtain ⟨intensity, bestHour⟩ := short_builtIn _ plain.environment.1
  exact ⟨short_gridIntensity plain, short_score plain.graded, short_small intensity,
    short_small bestHour⟩

theorem exists_integer_of_summaryFor {m : Metrics} {executions : Json} {s : ProjectionSummary}
    (h : summaryFor m executions = .ok s) :
    ∃ n, executions.toInteger = .ok n ∧ summaryFor m (.int n) = .ok s := by
  obtain ⟨n, whole, summarized⟩ := exists_of_bind_eq_ok h
  exact ⟨n, whole, bind_eq_ok_of rfl summarized⟩

theorem isWritable_projectionsDocument {m : Metrics} {executions : Json} {s : ProjectionSummary}
    (finite : m.Finite) (h : summaryFor m executions = .ok s) :
    (projectionsDocument s).isWritable = true := by
  obtain ⟨n, -, summarized⟩ := exists_integer_of_summaryFor h
  have trees := short_annualTrees finite summarized
  unfold Short at trees
  simp [projectionsDocument, trees]

theorem membersWritable_iff (plain : r.Plain .builtIn) {executions : Json}
    {listed : List (String × Json)} (h : members r executions = .ok listed) :
    membersWritable listed = true ↔ Short r.metrics.lineCount ∧ executions.isWritable = true := by
  obtain ⟨s, summarized, same⟩ := exists_of_bind_eq_ok h
  obtain rfl := Except.ok.inj same
  have projections := isWritable_projectionsDocument plain.finite summarized
  have shorts := short_of_plain plain
  unfold Short at shorts ⊢
  simp [metricsDocument, Review.toJson, environmentDocument, projections, shorts]

theorem isWritable_document (plain : r.Plain .builtIn) {executions d : Json}
    (h : document r executions = .ok d) :
    d.isWritable = true ↔ Short r.metrics.lineCount ∧ executions.isWritable = true := by
  obtain ⟨listed, made, rfl⟩ := exists_of_map_eq_ok h
  exact membersWritable_iff plain made

theorem isWritable_shownValues (plain : r.Plain .builtIn) {extra : List (String × Json)}
    (written : membersWritable extra = true) :
    (Json.array (shownValues r (.int n) extra)).isWritable = true ↔
      Short r.metrics.lineCount ∧ Short n := by
  have extras : areWritable (extra.map Prod.snd) = true := by
    induction extra with
    | nil => rfl
    | cons m rest ih => simp_all
  have shorts := short_of_plain plain
  unfold Short at shorts ⊢
  simp [shownValues, shorts, extras]

end Report
end Footprint
