import Footprint.Binary64.HalfUp
import Footprint.Failure

/-! The figures of an estimate, for one file or for several together. -/
namespace Footprint

structure Metrics where
  /-- In kWh. -/
  energy : Binary64
  /-- In grams of CO2e. -/
  carbon : Binary64
  /-- In grams of CO2e per kWh. -/
  gridIntensity : Int
  lineCount : Int
  complexity : Binary64
  memPressure : Binary64
  recursive : Bool
  language : String
  deriving DecidableEq

def energyUnit : String := "kWh"

def carbonUnit : String := "gCO2e"

def mixedLanguage : String := "mixed"

namespace Metrics

def greatest (first : Binary64) (rest : List Binary64) : Binary64 := rest.foldl Binary64.max first

def sharedLanguage (first : Metrics) (rest : List Metrics) : String :=
  if rest.all fun m => m.language == first.language then first.language else mixedLanguage

/-- The figures of several files together: energy, carbon and lines are summed, the complexity is the
greatest and the memory pressure the mean. The grid is the one of the first file. -/
def aggregate : List Metrics → Outcome Metrics
  | [] => .error .emptyAggregate
  | first :: rest => do
    let all := first :: rest
    let energy ← (Binary64.sum (all.map Metrics.energy)).roundHalfUp 3
    let carbon ← (Binary64.sum (all.map Metrics.carbon)).roundHalfUp 2
    let pressure ← (Binary64.sum (all.map Metrics.memPressure) / (all.length : Binary64)).roundHalfUp 2
    return {
      energy, carbon
      gridIntensity := first.gridIntensity
      lineCount := (all.map Metrics.lineCount).foldr (· + ·) 0
      complexity := greatest first.complexity (rest.map Metrics.complexity)
      memPressure := pressure
      recursive := all.any Metrics.recursive
      language := sharedLanguage first rest }

end Metrics
end Footprint
