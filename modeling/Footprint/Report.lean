import Footprint.Json.Display
import Footprint.Json.Printer
import Footprint.Pipeline
import Footprint.Projection
import Footprint.Timestamp

/-! Reports of a result: a document for other programs, a flat record for storage, and a text to read.
The number of executions a day stands in each as it was given; the projections beside it are for that
number, without a fraction and not below zero. -/
namespace Footprint.Report

def engineVersion : String := "5.0.0-delta"

def metricsDocument (m : Metrics) : Json :=
  .object [("estimatedEnergy", .float m.energy), ("estimatedCO2", .float m.carbon),
    ("energyUnit", .string energyUnit), ("co2Unit", .string carbonUnit),
    ("gridIntensity", .int m.gridIntensity), ("lineCount", .int m.lineCount),
    ("complexity", .float m.complexity), ("memPressure", .float m.memPressure),
    ("recursionDetected", .bool m.recursive), ("language", .string m.language)]

def annualTrees (s : ProjectionSummary) : Int :=
  ((s.byPeriod? Period.annual.name).map Projection.trees).getD 0

def projectionsDocument (s : ProjectionSummary) : Json :=
  .object (s.projections.map (fun p => (p.period.name, .float p.co2)) ++
    [("treesToOffset", .int (annualTrees s)), ("scope2", .float s.scope2),
      ("scope3", .float s.scope3)])

def environmentDocument (e : Environment) : Json :=
  .object [("region", .string e.region.key), ("hardwareProfile", .string e.hardware.key),
    ("pueFactor", .float e.region.factor), ("hardwareFactor", .float e.hardware.factor),
    ("baselineIntensity", .int e.region.intensity), ("bestHour", .int e.region.bestHour)]

def summaryFor (m : Metrics) (executions : Json) : Outcome ProjectionSummary := do
  Projection.summary m (← executions.toInteger)

def members (r : AnalysisResult) (executions : Json) : Outcome (List (String × Json)) := do
  let summary ← summaryFor r.metrics executions
  return [("files", .array (r.fileNames.map Json.string)), ("metrics", metricsDocument r.metrics),
    ("review", r.review.toJson), ("reviewSource", .string r.reviewSource),
    ("analysis", .string r.branch.name), ("badgeTier", .string (Tier.ofScore r.review.score).name),
    ("environment", environmentDocument r.environment),
    ("carbonProjections", projectionsDocument summary), ("executionsPerDay", executions)]

def document (r : AnalysisResult) (executions : Json) : Outcome Json :=
  Json.object <$> members r executions

/-- The file name of a record: the one given, or the first of the result. -/
def recordName (given : String) (r : AnalysisResult) : String :=
  if given.isEmpty then r.fileNames.headD "" else given

def record (r : AnalysisResult) (fileName : String) (fileSize executions : Json)
    (createdAt : Timestamp) : Outcome Json := do
  let summary ← summaryFor r.metrics executions
  let m := r.metrics
  return .object [("createdAt", .string createdAt.text), ("engineVersion", .string engineVersion),
    ("fileName", .string (recordName fileName r)), ("fileSize", fileSize),
    ("lineCount", .int m.lineCount), ("language", .string m.language),
    ("estimatedEnergy", .float m.energy), ("estimatedCO2", .float m.carbon),
    ("score", .int r.review.score), ("region", .string r.environment.region.key),
    ("hardwareProfile", .string r.environment.hardware.key),
    ("gridIntensity", .int m.gridIntensity), ("pueFactor", .float r.environment.region.factor),
    ("complexity", .float m.complexity), ("memPressure", .float m.memPressure),
    ("recursionDetected", .bool m.recursive), ("bottleneck", .string r.review.bottleneck),
    ("optimization", .string r.review.optimization),
    ("improvement", .string r.review.improvement),
    ("carbonProjections", projectionsDocument summary), ("executionsPerDay", executions)]

def json (r : AnalysisResult) (executions : Json) (indent : Option Nat) : Outcome String := do
  return Json.print (Json.asciiStyle indent) (← Json.writable (← document r executions))

/-! ### Text -/

def rule : String := String.ofList (List.replicate 60 '=')

def bullet (label value : String) : String := "  • " ++ label ++ ": " ++ value

def filesText (r : AnalysisResult) : String :=
  let files := ", ".intercalate r.fileNames
  if files.isEmpty then "<string>" else files

def hourText (hour : Int) : String :=
  (if hour < 0 then "-" ++ toString hour.natAbs else Decimal.padded 2 hour.natAbs) ++ ":00"

def headLines (r : AnalysisResult) : List String :=
  let m := r.metrics
  [rule, "CO2DE METER - ENERGY ANALYSIS REPORT", rule, "File: " ++ filesText r,
    "Language: " ++ m.language, s!"Lines: {m.lineCount}",
    "Estimated Energy: " ++ m.energy.text ++ " " ++ energyUnit,
    "Estimated Carbon: " ++ m.carbon.text ++ " " ++ carbonUnit,
    s!"Review Score: {r.review.score}/10 (" ++ (Tier.ofScore r.review.score).name ++ " tier)", rule]

def heuristicLines (r : AnalysisResult) (extra : List (String × Json)) : List String :=
  let m := r.metrics
  ["", "Heuristics:", bullet "Complexity Factor" m.complexity.text,
    bullet "Memory Pressure" m.memPressure.text,
    bullet "Recursion Detected" (if m.recursive then "yes" else "no"),
    bullet "Analysis" r.branch.name] ++
  extra.map fun e => bullet e.1 e.2.displayText

def environmentLines (r : AnalysisResult) : List String :=
  let e := r.environment
  ["", "Environment:",
    bullet "Region" (e.region.label ++ " (PUE " ++ e.region.factor.text ++ ")"),
    bullet "Hardware" (e.hardware.label ++ " (" ++ e.hardware.factor.text ++ "x)"),
    bullet "Grid Intensity" s!"{r.metrics.gridIntensity} gCO2e/kWh",
    bullet "Lowest-carbon hour" (hourText e.region.bestHour)]

def reviewLines (r : AnalysisResult) : List String :=
  ["", "Review (" ++ r.reviewSource ++ "):", bullet "Bottleneck" r.review.bottleneck,
    bullet "Optimization" r.review.optimization, bullet "Improvement" r.review.improvement]

def projectionLine (p : Projection) : String :=
  bullet p.period.label
    (p.energy.fixed 3 ++ " kWh, " ++ p.co2.fixed 3 ++ " kg CO2e ≈ " ++ p.equivalent)

def projectionLines (s : ProjectionSummary) (executions : Json) : List String :=
  ["", "Projections (" ++ executions.displayText ++ " executions/day):"] ++
    s.projections.map projectionLine

def shownValues (r : AnalysisResult) (executions : Json) (extra : List (String × Json)) : List Json :=
  [.int r.metrics.lineCount, .int r.review.score, .int r.metrics.gridIntensity,
    .int r.environment.region.bestHour, executions] ++ extra.map Prod.snd

def text (r : AnalysisResult) (executions : Json) (extra : List (String × Json)) :
    Outcome String := do
  let _ ← Json.writable (.array (shownValues r executions extra))
  let summary ← summaryFor r.metrics executions
  return "\n".intercalate
    (headLines r ++ heuristicLines r extra ++ environmentLines r ++ reviewLines r ++
      projectionLines summary executions)

end Footprint.Report
