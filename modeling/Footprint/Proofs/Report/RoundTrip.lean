import Footprint.Proofs.Json.RoundTrip
import Footprint.Proofs.Report.Writing

/-! Reports are plain JSON: all of their numbers are finite, no key stands twice, and the text of a report is
decoded to the report. -/
namespace Footprint

open Binary64

/-! ### Values -/

namespace Json

def isFiniteNumber : Json → Bool
  | .float x => x.isFinite
  | _ => true

structure IsPlain (v : Json) : Prop where
  finite : v.all isFiniteNumber = true
  distinct : v.all hasDistinctKeys = true

variable (p : Json → Bool)

@[simp] theorem all_int (n : Int) : (Json.int n).all p = p (.int n) := rfl

@[simp] theorem all_float (x : Binary64) : (Json.float x).all p = p (.float x) := rfl

@[simp] theorem all_string (s : String) : (Json.string s).all p = p (.string s) := rfl

@[simp] theorem all_bool (b : Bool) : (Json.bool b).all p = p (.bool b) := rfl

@[simp] theorem all_array (items : List Json) :
    (Json.array items).all p = (p (.array items) && allItems p items) := rfl

@[simp] theorem all_object (members : List (String × Json)) :
    (Json.object members).all p = (p (.object members) && allMembers p members) := rfl

@[simp] theorem allMembers_nil : allMembers p [] = true := rfl

@[simp] theorem allMembers_cons (m : String × Json) (members : List (String × Json)) :
    allMembers p (m :: members) = (m.2.all p && allMembers p members) := rfl

theorem allItems_strings (text : ∀ s, p (.string s) = true) (names : List String) :
    allItems p (names.map Json.string) = true := by
  induction names with
  | nil => rfl
  | cons name names ih => simp [allItems, text, ih]

end Json

namespace Report

open Json Projection

variable {r : AnalysisResult} {executions : Json}

theorem isPlain_of_toInteger {n : Int} (h : executions.toInteger = .ok n) : executions.IsPlain := by
  cases executions with
  | float x =>
    cases x with
    | finite => exact ⟨rfl, rfl⟩
    | _ => cases h
  | int => exact ⟨rfl, rfl⟩
  | bool => exact ⟨rfl, rfl⟩
  | string => exact ⟨rfl, rfl⟩
  | _ => cases h

/-! ### Projections -/

theorem scope3Share_upTo : scope3Share.UpTo 0 := by decide +kernel

theorem isPlain_projectionsDocument {m : Metrics} {s : ProjectionSummary} (finite : m.Finite)
    (h : summaryFor m executions = .ok s) : (projectionsDocument s).IsPlain := by
  obtain ⟨n, -, summarized⟩ := exists_integer_of_summaryFor h
  obtain ⟨projected, summarizes⟩ := exists_of_summaryFor summarized
  have kilograms (period : Period) := (summarizes.bounds finite.carbon finite.carbon_nonneg period).1
  have co2 (period : Period) := (kilograms period).isFinite (by decide)
  have scope2 : s.scope2.isFinite = true := by
    rw [summarizes.scope2]
    exact co2 .annual
  have scope3 : s.scope3.isFinite = true := by
    rw [summarizes.scope3]
    exact ((kilograms .annual).mul scope3Share_upTo (by decide)).isFinite (by decide)
  rw [projectionsDocument_eq summarizes]
  constructor
  · simp [isFiniteNumber, Period.all, co2, scope2, scope3]
  · simp [hasDistinctKeys, Period.all, Period.name]

/-! ### Documents and records -/

theorem isFinite_builtIn :
    (∀ region ∈ EnvironmentTables.builtIn.regions.map Prod.snd, region.factor.isFinite = true) ∧
      ∀ hardware ∈ EnvironmentTables.builtIn.hardware.map Prod.snd, hardware.factor.isFinite = true := by
  decide +kernel

theorem isPlain_document (plain : r.Plain .builtIn) {d : Json} (h : document r executions = .ok d) :
    d.IsPlain := by
  obtain ⟨listed, made, rfl⟩ := exists_of_map_eq_ok h
  obtain ⟨s, summarized, same⟩ := exists_of_bind_eq_ok made
  obtain rfl := Except.ok.inj same
  obtain ⟨finite, distinct⟩ := isPlain_projectionsDocument plain.finite summarized
  obtain ⟨n, whole, -⟩ := exists_integer_of_summaryFor summarized
  obtain ⟨given, scalar⟩ := isPlain_of_toInteger whole
  have region := isFinite_builtIn.1 _ plain.environment.1
  have hardware := isFinite_builtIn.2 _ plain.environment.2
  have figures := plain.finite
  constructor
  · have files := allItems_strings isFiniteNumber (fun _ => rfl) r.fileNames
    simp [isFiniteNumber, metricsDocument, Review.toJson, environmentDocument, files, finite, given,
      region, hardware, figures.energy, figures.carbon, figures.complexity, figures.memPressure]
  · have files := allItems_strings hasDistinctKeys (fun _ => rfl) r.fileNames
    simp [hasDistinctKeys, metricsDocument, Review.toJson, environmentDocument, files, distinct, scalar]

theorem isPlain_record (plain : r.Plain .builtIn) {name : String} {size d : Json} {createdAt : Timestamp}
    (sized : size.IsPlain) (h : record r name size executions createdAt = .ok d) : d.IsPlain := by
  obtain ⟨s, summarized, same⟩ := exists_of_bind_eq_ok h
  obtain rfl := Except.ok.inj same
  obtain ⟨finite, distinct⟩ := isPlain_projectionsDocument plain.finite summarized
  obtain ⟨n, whole, -⟩ := exists_integer_of_summaryFor summarized
  obtain ⟨given, scalar⟩ := isPlain_of_toInteger whole
  have region := isFinite_builtIn.1 _ plain.environment.1
  have figures := plain.finite
  constructor
  · simp [isFiniteNumber, finite, given, region, sized.finite, figures.energy, figures.carbon,
      figures.complexity, figures.memPressure]
  · simp [hasDistinctKeys, distinct, scalar, sized.distinct]

theorem isWritable_record (plain : r.Plain .builtIn) {name : String} {size d : Json}
    {createdAt : Timestamp} (h : record r name size executions createdAt = .ok d) :
    d.isWritable = true ↔
      size.isWritable = true ∧ Short r.metrics.lineCount ∧ executions.isWritable = true := by
  obtain ⟨s, summarized, same⟩ := exists_of_bind_eq_ok h
  obtain rfl := Except.ok.inj same
  have projections := isWritable_projectionsDocument plain.finite summarized
  have shorts := short_of_plain plain
  unfold Short at shorts ⊢
  simp [projections, shorts]

theorem json_eq_ok_iff {d : Json} (made : document r executions = .ok d) {indent : Option Nat}
    {text : String} :
    json r executions indent = .ok text ↔ d.isWritable = true ∧ print (asciiStyle indent) d = text := by
  rw [json, made, ok_bind, writable]
  cases written : d.isWritable with
  | true => exact ⟨fun h => ⟨rfl, Except.ok.inj h⟩, fun h => congrArg Except.ok h.2⟩
  | false => exact ⟨fun h => (nomatch h), fun h => (nomatch h.1)⟩

variable {σ : Type}

/-- Under the built-in tables, every result of the pipeline is reported as plain JSON: for one file, and for
several whatever others do in the meantime. The numbers of the document and of the record are finite, and
what is printed in any indentation is decoded to what it was.

There is such a text exactly when the two integers that have no bound of their own can be written, the lines
of the files and the executions. -/
theorem decode_json (p : Pipeline σ) (tables : p.meter.environments = .builtIn) (result : AnalysisResult)
    (given : (∃ r u world, (p.run r u world).1.outcome = .ok result) ∨
      (∃ r shared, (p.runMany r shared).1.outcome = .ok (some result)) ∨
      ∃ r, p.Reached r (.finished (some result))) :
    (∀ executions d, document result executions = .ok d →
      d.all isFiniteNumber = true ∧
      (∀ indent, (∃ text, json result executions indent = .ok text) ↔
        Short result.metrics.lineCount ∧ executions.isWritable = true) ∧
      ∀ indent text, json result executions indent = .ok text → decode text = .ok d) ∧
    ∀ name size executions createdAt d, record result name size executions createdAt = .ok d →
      size.IsPlain →
        d.all isFiniteNumber = true ∧
        (d.isWritable = true ↔
          size.isWritable = true ∧ Short result.metrics.lineCount ∧ executions.isWritable = true) ∧
        ∀ indent, d.isWritable = true → decode (print (asciiStyle indent) d) = .ok d := by
  have plain : result.Plain .builtIn := by
    rw [← tables]
    obtain ⟨r, u, world, returned⟩ | ⟨r, shared, returned⟩ | ⟨r, reached⟩ := given
    · exact Pipeline.plain_of_run returned
    · exact (Pipeline.reached_of_runMany returned).plain
    · exact reached.plain
  constructor
  · intro executions d made
    have json := isPlain_document plain made
    have written := isWritable_document plain made
    refine ⟨json.finite, fun indent => ?_, fun indent text printed => ?_⟩
    · rw [← written]
      simp [json_eq_ok_iff made]
    · obtain ⟨short, rfl⟩ := (json_eq_ok_iff made).mp printed
      exact decode_print (asciiStyle indent) json.distinct short
  · intro name size executions createdAt d made sized
    have json := isPlain_record plain sized made
    exact ⟨json.finite, isWritable_record plain made, fun indent written =>
      decode_print (asciiStyle indent) json.distinct written⟩

def accented : SourceUnit := ⟨"naïve \"😀\".js", .int 204800, none, "js"⟩

def newYear : Timestamp where
  year := 2026
  month := 1
  day := 1

theorem decode_json_accented :
    ∃ result d text entry,
      (({} : Pipeline Unit).run { clock := 12 } accented ()).1.outcome = .ok result ∧
      (document result (.int 100) = .ok d ∧ d.all isFiniteNumber = true ∧
        json result (.int 100) (some 2) = .ok text ∧ decode text = .ok d) ∧
      record result "" (.float 204800) (.int 100) newYear = .ok entry ∧
        entry.all isFiniteNumber = true ∧ decode (print (asciiStyle none) entry) = .ok entry := by
  have shown : ((({} : Pipeline Unit).run { clock := 12 } accented ()).1.outcome.toOption.any
      fun result => (Json.int result.metrics.lineCount).isWritable &&
        ((document result (.int 100)).toOption.isSome &&
          (record result "" (.float 204800) (.int 100) newYear).toOption.isSome)) = true := by
    decide +kernel
  obtain ⟨result, found, shown⟩ := (Option.any_eq_true _ _).mp shown
  simp only [Bool.and_eq_true, Option.isSome_iff_exists] at shown
  obtain ⟨lines, ⟨d, documented⟩, entry, recorded⟩ := shown
  have outcome := eq_ok_of_toOption found
  have made := eq_ok_of_toOption documented
  have entered := eq_ok_of_toOption recorded
  have count : (Json.int 100).isWritable = true := by decide +kernel
  have size : (Json.float 204800).IsPlain := ⟨by decide +kernel, rfl⟩
  obtain ⟨documents, records⟩ := decode_json {} rfl result (.inl ⟨_, _, _, outcome⟩)
  obtain ⟨finite, printed, decoded⟩ := documents _ d made
  obtain ⟨text, written⟩ := (printed (some 2)).mpr ⟨lines, count⟩
  obtain ⟨flat, short, same⟩ := records _ _ _ _ entry entered size
  exact ⟨result, d, text, entry, outcome, ⟨made, finite, written, decoded _ text written⟩, entered, flat,
    same none (short.mpr ⟨rfl, lines, count⟩)⟩

end Report
end Footprint
