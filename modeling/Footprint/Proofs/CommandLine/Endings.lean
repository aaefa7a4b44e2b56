import Footprint.Proofs.Arguments
import Footprint.Proofs.CommandLine.PythonFiles

/-! How a run of the command line ends. A failure of the analysis or of the system is reported; one of the
library for cyclomatic complexities escapes, and so does one of the report, of which there is one exactly
when the executions of a year, or what they give off, go beyond all doubles. -/
namespace Footprint.CommandLine

open Projection

/-! ### The report of a result -/

section

variable {o : Options} {r : AnalysisResult} {extra : List (String × Json)} {n : Int}

theorem isReported_of_summaryFor {m : Metrics} {cause : Failure}
    (h : Report.summaryFor m (.int n) = .error cause) : cause.isReported = false := by
  obtain absurd | ⟨whole, -, h⟩ := cases_of_bind_eq_error h
  · cases absurd
  · obtain ⟨e, -, rfl⟩ := exists_of_liftM_eq_error h
    rfl

theorem isReported_of_writable {value : Json} {cause : Failure}
    (h : (liftM value.writable : Outcome Json) = .error cause) : cause.isReported = false := by
  cases written : value.writable with
  | ok same =>
    rw [written] at h
    nomatch h
  | error e =>
    rw [written] at h
    obtain rfl := Except.error.inj h
    rfl

theorem isReported_of_report {cause : Failure} (h : report o r extra = .error cause) :
    cause.isReported = false := by
  unfold report at h
  dsimp only at h
  split at h
  · obtain failed | ⟨listed, -, h⟩ := cases_of_bind_eq_error h
    · obtain failed | ⟨s, -, absurd⟩ := cases_of_bind_eq_error failed
      · exact isReported_of_summaryFor failed
      · cases absurd
    · obtain failed | ⟨value, -, absurd⟩ := cases_of_bind_eq_error h
      · exact isReported_of_writable failed
      · cases absurd
  · obtain failed | ⟨value, -, h⟩ := cases_of_bind_eq_error h
    · exact isReported_of_writable failed
    · obtain failed | ⟨s, -, absurd⟩ := cases_of_bind_eq_error h
      · exact isReported_of_summaryFor failed
      · cases absurd

theorem exists_summaryFor_iff (finite : r.metrics.Finite) :
    (∃ s, Report.summaryFor r.metrics (.int n) = .ok s) ↔
      Fits r.metrics.carbon (executionsPerDay n) := by
  rw [← exists_summary_iff finite.carbon finite.carbon_nonneg]
  constructor
  · rintro ⟨s, made⟩
    exact ⟨s, summary_eq_ok_iff.mpr (Report.exists_of_summaryFor made)⟩
  · rintro ⟨s, made⟩
    have read : (Json.int n).toInteger = .ok n := rfl
    exact ⟨s, bind_eq_ok_of read (liftM_eq_ok made)⟩

theorem writable_eq_ok {value : Json} (h : value.isWritable = true) :
    (liftM value.writable : Outcome Json) = .ok value := by
  rw [Json.writable_eq_ok_iff.mpr ⟨rfl, h⟩]
  rfl

theorem exists_report_iff (plain : r.Plain .builtIn) (lines : Json.Short r.metrics.lineCount)
    (count : Json.Short o.executionsPerDay) (extras : Json.membersWritable extra = true) :
    (∃ text, report o r extra = .ok text) ↔
      Fits r.metrics.carbon (executionsPerDay o.executionsPerDay) := by
  rw [← exists_summaryFor_iff plain.finite]
  unfold report
  dsimp only
  split
  · constructor
    · rintro ⟨text, h⟩
      obtain ⟨listed, made, -⟩ := exists_of_bind_eq_ok h
      obtain ⟨s, summarized, -⟩ := exists_of_bind_eq_ok made
      exact ⟨s, summarized⟩
    · rintro ⟨s, summarized⟩
      have made : Report.members r (.int o.executionsPerDay) = .ok _ := bind_eq_ok_of summarized rfl
      have written := (Report.membersWritable_iff plain made).mpr ⟨lines, count⟩
      refine ⟨_, bind_eq_ok_of made (bind_eq_ok_of (writable_eq_ok ?_) rfl)⟩
      rw [Json.isWritable_object, Json.membersWritable_append, written]
      split
      · rfl
      · simpa using extras
  · constructor
    · rintro ⟨text, h⟩
      obtain ⟨-, -, h⟩ := exists_of_bind_eq_ok h
      obtain ⟨s, summarized, -⟩ := exists_of_bind_eq_ok h
      exact ⟨s, summarized⟩
    · rintro ⟨s, summarized⟩
      have written := (Report.isWritable_shownValues plain extras).mpr ⟨lines, count⟩
      exact ⟨_, bind_eq_ok_of (writable_eq_ok written) (bind_eq_ok_of summarized rfl)⟩

end

/-! ### What is reported besides -/

def NeverFails (library : Cyclomatic.Library) : Prop :=
  ∀ source kind message, library source ≠ .error (.failed kind message)

theorem neverFails_ofGrammar : NeverFails .ofGrammar := by
  intro source kind message
  unfold Cyclomatic.Library.ofGrammar
  split <;> nofun

theorem isReported_of_complexityOf {library : Cyclomatic.Library} (never : NeverFails library)
    {f : Path × StoredFile} {cause : Failure} (h : complexityOf library f = .error cause) :
    cause.isReported = true := by
  obtain unread | ⟨text, -, failed⟩ := cases_of_bind_eq_error h
  · obtain refused | ⟨bytes, -, absurd⟩ := cases_of_bind_eq_error unread
    · cases reading : f.2.second with
      | error message =>
        rw [reading] at refused
        exact Except.error.inj refused ▸ rfl
      | ok bytes =>
        rw [reading] at refused
        cases refused
    · cases absurd
  · unfold Cyclomatic.Library.greatest? at failed
    cases told : library text with
    | ok complexities =>
      rw [told] at failed
      cases failed
    | error refusal =>
      cases refusal with
      | notPython =>
        rw [told] at failed
        cases failed
      | failed kind message => exact absurd told (never text kind message)

theorem isReported_of_extras {library : Cyclomatic.Library} {o : Options}
    (never : o.radon = true → NeverFails library) {files : List (Path × StoredFile)} {cause : Failure}
    (h : extras library o files = .error cause) : cause.isReported = true := by
  by_cases asked : o.radon = true
  · obtain ⟨-, f, -, -, -, failed⟩ := ((reports_extras asked files).failed cause).mp h
    exact isReported_of_complexityOf (never asked) failed
  · rw [extras, if_neg asked] at h
    cases h

/-! ### The end of a run -/

variable {σ : Type} (s : Surroundings) (service : Chat.Service σ) (o : Options) (world : σ)

structure Analyses (subject : Subject) (result : AnalysisResult) : Prop where
  asked : CommandLine.subject .builtIn s o = .ok subject
  found : (analyse (pipeline s o service) s.clock o subject world).1.outcome = .ok (some result)

def Reported (run : Run) : Prop :=
  ∃ subject result extra text, Analyses s service o world subject result ∧
    extras s.cyclomatic o (subjectFiles subject) = .ok extra ∧ report o result extra = .ok text ∧
    run.output = text ++ "\n" ∧ run.ending = .ok 0

def Refused (run : Run) : Prop :=
  ∃ (lines : List String) (cause : Failure), cause.isReported = true ∧ run.output = "" ∧
    run.errors = lines ++ [errorLine cause.message] ∧ run.ending = .ok 1

def Escaped (run : Run) : Prop :=
  ∃ cause : Failure, cause.isReported = false ∧ run.output = "" ∧ run.ending = .error cause

theorem failed_cases (lines : List String) (cause : Failure) :
    Refused (failed lines cause) ∨ Escaped (failed lines cause) := by
  unfold failed
  split
  · next reported => exact .inl ⟨lines, cause, reported, rfl, rfl, rfl⟩
  · next other => exact .inr ⟨cause, by simpa using other, rfl, rfl⟩

theorem failed_reported (lines : List String) {cause : Failure} (reported : cause.isReported = true) :
    Refused (failed lines cause) := by
  rw [failed, if_pos reported]
  exact ⟨lines, cause, reported, rfl, rfl, rfl⟩

variable {s service o world}

theorem not_escaped_of_reported {run : Run} (h : Reported s service o world run) : ¬Escaped run := by
  obtain ⟨-, -, -, -, -, -, -, -, ended⟩ := h
  rintro ⟨cause, -, -, absurd⟩
  nomatch ended.symm.trans absurd

theorem not_escaped_of_refused {run : Run} (h : Refused run) : ¬Escaped run := by
  obtain ⟨-, -, -, -, -, ended⟩ := h
  rintro ⟨cause, -, -, absurd⟩
  nomatch ended.symm.trans absurd

def EndsCleanly (s : Surroundings) (service : Chat.Service σ) (o : Options) (world : σ) (run : Run) :
    Prop :=
  Reported s service o world run ∨ Refused run

theorem EndsCleanly.not_escaped {run : Run} (h : EndsCleanly s service o world run) : ¬Escaped run :=
  h.elim not_escaped_of_reported not_escaped_of_refused

/-- With a result and all that is reported besides, everything depends on whether there is a report. -/
theorem finish_of_analyses {subject : Subject} {result : AnalysisResult} {extra : List (String × Json)}
    (h : Analyses s service o world subject result)
    (besides : extras s.cyclomatic o (subjectFiles subject) = .ok extra) (lines : List String) :
    let ended := finish s.cyclomatic o subject lines (.ok (some result))
    ((∃ text, report o result extra = .ok text) → Reported s service o world ended) ∧
      ((¬∃ text, report o result extra = .ok text) → Escaped ended) := by
  constructor
  · rintro ⟨text, made⟩
    refine ⟨subject, result, extra, text, h, besides, made, ?_⟩
    simp [finish, besides, made, ok_bind]
  · intro absent
    cases made : report o result extra with
    | ok text => exact absurd ⟨text, made⟩ absent
    | error cause =>
      refine ⟨cause, isReported_of_report made, ?_⟩
      simp [finish, besides, made, ok_bind]

theorem finish_of_extras_error {subject : Subject} {result : AnalysisResult} {cause : Failure}
    (besides : extras s.cyclomatic o (subjectFiles subject) = .error cause) (lines : List String) :
    finish s.cyclomatic o subject lines (.ok (some result)) = failed lines cause := by
  simp [finish, besides, ok_bind]

theorem runOptions_of_error {cause : Failure} (h : subject .builtIn s o = .error cause) :
    (runOptions s service o world).1 = failed (eventLines o (reviewerEvents s.settings o)) cause := by
  have asked : subject (pipeline s o service).meter.languages s o = .error cause := h
  simp only [runOptions, asked]

variable (service world) in
theorem exists_runOptions {subject : Subject} (h : CommandLine.subject .builtIn s o = .ok subject) :
    ∃ lines, (runOptions s service o world).1 = finish s.cyclomatic o subject lines
      (analyse (pipeline s o service) s.clock o subject world).1.outcome := by
  have asked : CommandLine.subject (pipeline s o service).meter.languages s o = .ok subject := h
  simp only [runOptions, asked]
  exact ⟨_, rfl⟩

theorem runOptions_cases :
    EndsCleanly s service o world (runOptions s service o world).1 ∨
      Escaped (runOptions s service o world).1 := by
  cases asked : subject .builtIn s o with
  | error cause =>
    rw [runOptions_of_error asked]
    exact (failed_cases _ cause).imp_left .inr
  | ok subject =>
    obtain ⟨lines, same⟩ := exists_runOptions service world asked
    rw [same]
    cases found : (analyse (pipeline s o service) s.clock o subject world).1.outcome with
    | error cause => exact (failed_cases lines cause).imp_left .inr
    | ok outcome =>
      obtain _ | result := outcome
      · exact absurd found (outcome_analyse_ne _ _ o subject world)
      · cases besides : extras s.cyclomatic o (subjectFiles subject) with
        | error cause =>
          rw [finish_of_extras_error besides]
          exact (failed_cases lines cause).imp_left .inr
        | ok extra =>
          have ⟨reports, escapes⟩ := finish_of_analyses ⟨asked, found⟩ besides lines
          exact (Classical.em _).imp (.inl ∘ reports) escapes

theorem isWritable_extras (moderate : Moderate s o) {subject : Subject}
    (asked : CommandLine.subject .builtIn s o = .ok subject) {extra : List (String × Json)}
    (besides : extras s.cyclomatic o (subjectFiles subject) = .ok extra) :
    Json.membersWritable extra = true := by
  unfold extras at besides
  split at besides
  · next radon =>
    obtain ⟨greatest, found, besides⟩ := exists_of_bind_eq_ok besides
    cases greatest with
    | none =>
      obtain rfl := Except.ok.inj besides
      rfl
    | some n =>
      obtain rfl := Except.ok.inj besides
      simpa using moderate.cyclomatic radon subject asked n found
  · obtain rfl := Except.ok.inj besides
    rfl

/-- Of files that are not too large, a result is plain and its figures are not too large either. -/
theorem Analyses.moderate {subject : Subject} {result : AnalysisResult} (moderate : Moderate s o)
    (h : Analyses s service o world subject result) :
    result.metrics.UpTo 301 ∧ result.Plain .builtIn := by
  obtain ⟨cause, absurd, -⟩ | ⟨same, asked, within⟩ := subject_cases moderate
  · nomatch h.asked.symm.trans absurd
  obtain rfl := Except.ok.inj (h.asked.symm.trans asked)
  obtain ⟨other, found, up, plain⟩ | ⟨errors, absurd⟩ :=
    answers_analyse (p := pipeline s o service) rfl s.clock o within world
  · obtain rfl := Option.some.inj (Except.ok.inj (h.found.symm.trans found))
    exact ⟨up, plain⟩
  · nomatch h.found.symm.trans absurd

theorem Analyses.exists_report_iff {subject : Subject} {result : AnalysisResult} (moderate : Moderate s o)
    (count : Json.Short o.executionsPerDay) (h : Analyses s service o world subject result)
    {extra : List (String × Json)} (besides : extras s.cyclomatic o (subjectFiles subject) = .ok extra) :
    (∃ text, report o result extra = .ok text) ↔
      Fits result.metrics.carbon (executionsPerDay o.executionsPerDay) := by
  obtain ⟨up, plain⟩ := h.moderate moderate
  have low := up.lineCount_nonneg
  have high := up.lineCount_le
  have lines : Json.Short result.metrics.lineCount :=
    Json.short_of_le_two_pow (k := 301) (by omega) (by decide)
  exact CommandLine.exists_report_iff plain lines count (isWritable_extras moderate h.asked besides)

/-- What a result needs for the rest of the run: what fails besides it is reported, and if nothing does, its
year of executions stays among the doubles. -/
structure Completes (s : Surroundings) (o : Options) (subject : Subject) (result : AnalysisResult) :
    Prop where
  reported : ∀ cause, extras s.cyclomatic o (subjectFiles subject) = .error cause →
    cause.isReported = true
  fits : ∀ extra, extras s.cyclomatic o (subjectFiles subject) = .ok extra →
    Fits result.metrics.carbon (executionsPerDay o.executionsPerDay)

theorem endsCleanly_finish_iff (moderate : Moderate s o) (count : Json.Short o.executionsPerDay)
    {subject : Subject} {result : AnalysisResult} (h : Analyses s service o world subject result)
    (lines : List String) :
    EndsCleanly s service o world (finish s.cyclomatic o subject lines (.ok (some result))) ↔
      Completes s o subject result := by
  cases besides : extras s.cyclomatic o (subjectFiles subject) with
  | error cause =>
    rw [finish_of_extras_error besides]
    constructor
    · intro ends
      refine ⟨fun other same => ?_, fun extra same => nomatch besides.symm.trans same⟩
      obtain rfl := Except.error.inj (besides.symm.trans same)
      obtain refused | escaped := failed_cases lines cause
      · by_contra silent
        have ended : (failed lines cause).ending = .error cause := by rw [failed, if_neg silent]
        obtain ⟨-, -, -, -, -, zero⟩ := refused
        nomatch ended.symm.trans zero
      · exact absurd escaped ends.not_escaped
    · exact fun completes => .inr (failed_reported lines (completes.reported cause besides))
  | ok extra =>
    have reports := h.exists_report_iff moderate count besides
    have ⟨printed, escapes⟩ := finish_of_analyses h besides lines
    constructor
    · intro ends
      refine ⟨fun cause same => (nomatch besides.symm.trans same), fun _ _ => ?_⟩
      by_contra high
      exact ends.not_escaped (escapes (mt reports.mp high))
    · exact fun completes => .inl (printed (reports.mpr (completes.fits extra besides)))

/-- Of files that are not too large, a run ends cleanly unless its result needs more than there is. -/
theorem endsCleanly_iff (moderate : Moderate s o) (count : Json.Short o.executionsPerDay) :
    EndsCleanly s service o world (runOptions s service o world).1 ↔
      ∀ subject result, Analyses s service o world subject result → Completes s o subject result := by
  constructor
  · intro ends subject result found
    obtain ⟨lines, same⟩ := exists_runOptions service world found.asked
    rw [same, found.found] at ends
    exact (endsCleanly_finish_iff moderate count found lines).mp ends
  · intro completes
    obtain ⟨cause, asked, reported⟩ | ⟨subject, asked, within⟩ := subject_cases moderate
    · rw [runOptions_of_error asked]
      exact .inr (failed_reported _ reported)
    · obtain ⟨lines, same⟩ := exists_runOptions service world asked
      rw [same]
      obtain ⟨result, found, -⟩ | ⟨errors, exhausted⟩ :=
        answers_analyse (p := pipeline s o service) rfl s.clock o within world
      · have analyses : Analyses s service o world subject result := ⟨asked, found⟩
        rw [found]
        exact (endsCleanly_finish_iff moderate count analyses lines).mpr
          (completes subject result analyses)
      · rw [exhausted]
        exact .inr (failed_reported lines rfl)

theorem endsCleanly_of_few (moderate : Moderate s o) (count : Json.Short o.executionsPerDay)
    (library : o.radon = true → NeverFails s.cyclomatic) (few : o.executionsPerDay ≤ (2 ^ 600 : Nat)) :
    EndsCleanly s service o world (runOptions s service o world).1 := by
  refine (endsCleanly_iff moderate count).mpr fun subject result found =>
    ⟨fun cause besides => ?_, fun _ _ => ?_⟩
  · exact isReported_of_extras library besides
  · have nonneg : 0 ≤ executionsPerDay o.executionsPerDay := le_max_left ..
    refine Fits.of_upTo (found.moderate moderate).1.carbon nonneg (max_le ?_ few) (by decide)
    exact Int.natCast_nonneg _

theorem run_of_options {arguments : List String}
    (read : Options.ofArguments s.settings arguments = .ok o) (asked : o.help = false) :
    run s service arguments world = runOptions s service o world := by
  simp [run, read, asked]

def oneLine : Surroundings where
  settings := .builtIn
  clock := 12
  look := fun _ => .nothing
  input := "const x = 1;"
  cyclomatic := .ofGrammar

def unasked : Chat.Service Unit := fun _ world => (.noChoices, world)

def noonArguments (digits : String) : List String := ["-", "--hour", "12", "--executions-per-day", digits]

def noonOptions (n : Int) : Options :=
  { Options.ofSettings .builtIn with hour := some 12, executionsPerDay := n }

theorem classifyAll_noonArguments {digits : String} (alone : digits ≠ "--")
    (operand : Argument.classify digits = .ok (.operand digits)) :
    Argument.classifyAll (noonArguments digits) =
      .ok [.operand "-", .option .hour "--hour" none, .operand "12",
        .option .executionsPerDay "--executions-per-day" none, .operand digits] := by
  have dash : Argument.classify "-" = .ok (.operand "-") := rfl
  have twelve : Argument.classify "12" = .ok (.operand "12") := rfl
  have hour : Argument.classify "--hour" = .ok (.option .hour "--hour" none) := rfl
  have executions : Argument.classify "--executions-per-day" =
      .ok (.option .executionsPerDay "--executions-per-day" none) := rfl
  simp [noonArguments, Argument.classifyAll, dash, twelve, hour, executions, operand, alone, ok_bind]

theorem ofArguments_noonArguments {digits : String} {n : Int} (alone : digits ≠ "--")
    (operand : Argument.classify digits = .ok (.operand digits))
    (read : Decimal.readInteger digits = .ok n) :
    Options.ofArguments oneLine.settings (noonArguments digits) = .ok (noonOptions n) := by
  have twelve : Decimal.readInteger "12" = .ok 12 := rfl
  rw [Options.ofArguments, classifyAll_noonArguments alone operand, ok_bind]
  simp [Reading.read, Reading.place, Reading.unjoin, Switch.takesValue, Reading.apply, Options.set,
    Options.integer, twelve, read, ok_bind]
  rfl

theorem ofArguments_of_isDigit {digits : List Char} (some : digits ≠ [])
    (each : ∀ c ∈ digits, c.isDigit = true) (few : digits.length ≤ Decimal.digitLimit) :
    Options.ofArguments oneLine.settings (noonArguments (String.ofList digits)) =
      .ok (noonOptions (Decimal.ofDigits (digits.map fun c => c.toNat - 48) : Nat)) := by
  have unsigned {rest : List Char} : digits ≠ '-' :: rest := by
    rintro rfl
    exact absurd (each '-' (List.mem_cons_self ..)) (by decide)
  have alone : String.ofList digits ≠ "--" := fun same =>
    unsigned (String.ofList_injective (same.trans (String.ofList_toList (s := "--")).symm))
  have operand : Argument.classify (String.ofList digits) = .ok (.operand (String.ofList digits)) := by
    unfold Argument.classify
    rw [String.toList_ofList]
    split
    · exact absurd rfl unsigned
    · rfl
  exact ofArguments_noonArguments alone operand (Decimal.readInteger_of_isDigit some each few)

theorem moderate_oneLine (n : Int) : Moderate oneLine (noonOptions n) where
  input := by decide
  file := nofun
  directory := nofun
  cyclomatic := nofun

def beyond : List Char := '1' :: List.replicate 400 '0'

theorem ofArguments_beyond :
    Options.ofArguments oneLine.settings (noonArguments (String.ofList beyond)) =
      .ok (noonOptions (10 ^ 400 : Nat)) := by
  have value : Decimal.ofDigits (beyond.map fun c => c.toNat - 48) = 10 ^ 400 := by decide +kernel
  rw [← value]
  have zeros : ∀ c ∈ List.replicate 400 '0', c.isDigit = true := fun c hc =>
    List.eq_of_mem_replicate hc ▸ by decide
  have few : beyond.length ≤ Decimal.digitLimit := by
    rw [beyond, List.length_cons, List.length_replicate, Decimal.digitLimit]
    omega
  exact ofArguments_of_isDigit nofun (List.forall_mem_cons.mpr ⟨by decide, zeros⟩) few

theorem escaped_beyond : Escaped (runOptions oneLine unasked (noonOptions (10 ^ 400 : Nat)) ()).1 := by
  refine ⟨.arithmetic .integerTooLarge, rfl, ?_, Outcome.eq_error_of_cause? ?_⟩ <;> decide +kernel

end Footprint.CommandLine
