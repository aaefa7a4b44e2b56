import Footprint.Complexity
import Footprint.Environment
import Footprint.Metrics
import Footprint.Recorded
import Footprint.SourceUnit

/-! The meter: the energy of one file is the product of a base that goes with its size and of factors
for its complexity, memory pressure, language, hardware, region and length; its carbon is that energy
on the grid of the region at the hour. -/
namespace Footprint

structure Meter where
  languages : LanguageTable := .builtIn
  /-- The languages whose files are analysed through their syntax tree. -/
  parsed : List String := Analysis.parsedLanguages
  /-- From a content and its language; none for a text that has no tree. -/
  parse : String → String → Option Syntax.Tree := Analysis.parse?
  scoring : Scoring := {}
  environments : EnvironmentTables := .builtIn
  /-- In kWh per 1024 bytes. -/
  energyPerKb : Binary64 := 0.0001
  /-- The stack on which the meter is called. -/
  stack : Signals.CallStack := {}

structure Measurement where
  metrics : Metrics
  branch : Branch
  fileName : String
  deriving DecidableEq

namespace Meter

def on (meter : Meter) (stack : Signals.CallStack) : Meter := { meter with stack }

def deeper (meter : Meter) (calls : Nat) : Meter := meter.on (meter.stack.enter calls)

def inWorker (meter : Meter) : Meter := meter.on meter.stack.worker

/-- The analysis of a content in a language, and what is recorded of it. -/
def analysis (meter : Meter) (content : Option String) (language : String) : Analysis × List Event :=
  match content with
  | none => (.ofSizeOnly, [])
  | some text => Analysis.ofContentWith meter.stack meter.parse meter.parsed text language

def profile (meter : Meter) (content : Option String) (language label : String) :
    Recorded (Profile × Branch) :=
  let (analysis, events) := (meter.deeper 1).analysis content language
  ⟨events ++ [.branchTaken analysis.branch language, .unitStage label .scoring],
    .ok (meter.scoring.profile analysis, analysis.branch)⟩

/-- The energy of a file before rounding: the factors are multiplied from the left. -/
def rawEnergy (meter : Meter) (size : Binary64) (profile : Profile) (multiplier : Binary64)
    (environment : Environment) (lines : Binary64) : Binary64 :=
  size / 1024 * meter.energyPerKb * profile.complexity * profile.memPressure * multiplier *
    environment.hardware.factor * environment.region.factor * (1 + lines)

def roundAmount (x : Binary64) (places : Int) : Except ArithmeticError Binary64 :=
  (Binary64.max 0 x).roundHalfUp places

def roundEnergy (x : Binary64) : Except ArithmeticError Binary64 := roundAmount x 3

/-- The carbon of an energy on a grid; the energy is the rounded one. -/
def carbonOf (energy : Binary64) (intensity : Int) : Except ArithmeticError Binary64 := do
  roundAmount (energy * (← Binary64.ofInt? intensity)) 2

/-- The figures of a file from its size, lines, language and profile. -/
def metricsOf (meter : Meter) (clock : Int) (c : Conditions) (size : Binary64) (lines : Int)
    (language : Language) (profile : Profile) : Outcome Metrics := do
  let environment ← meter.environments.resolve c
  let thousands ← Binary64.ofRatio? lines 1000
  let energy ← roundEnergy
    (meter.rawEnergy size profile language.multiplier environment thousands)
  let intensity ← meter.environments.gridIntensity clock c
  let carbon ← carbonOf energy intensity
  return {
    energy, carbon
    gridIntensity := intensity
    lineCount := lines
    complexity := ← profile.complexity.roundHalfUp 2
    memPressure := ← profile.memPressure.roundHalfUp 2
    recursive := profile.recursive
    language := language.tag }

def measure (meter : Meter) (clock : Int) (c : Conditions) (u : SourceUnit) :
    Recorded Measurement := do
  let size ← u.byteCount
  let lines ← linesOf u.content size
  let language := meter.languages.classify u.name
  let (profile, branch) ← (meter.deeper 1).profile u.content language.tag u.label
  Recorded.record [.unitStage u.label .calculating]
  let metrics ← meter.metricsOf clock c size lines language profile
  return ⟨metrics, branch, u.name⟩

def compute (meter : Meter) (clock : Int) (c : Conditions) (size : Json) (name : String)
    (content : Option String) : Recorded Metrics := do
  let u ← SourceUnit.ofInput meter.languages name content size
  return (← (meter.deeper 1).measure clock c u).metrics

end Meter
end Footprint
