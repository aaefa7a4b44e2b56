import Footprint.Decimal.Notation
import Footprint.Metrics
import Footprint.Review

/-! What an editor shows of an estimate: the status bar while editing, and a message on request. -/
namespace Footprint

structure StatusBar where
  text : String
  tooltip : String
  carbon : Binary64
  complexity : Binary64
  command : String
  deriving DecidableEq

def StatusBar.ofMetrics (m : Metrics) : StatusBar where
  text := "$(leaf) " ++ m.carbon.text ++ "g CO2"
  tooltip := "Estimated Carbon Footprint for this file (complexity " ++ m.complexity.text ++ "x)"
  carbon := m.carbon
  complexity := m.complexity
  command := "co2de.analyze"

def informationMessage (m : Metrics) : Except ArithmeticError String := do
  let score := Review.clampScore (← (10 - m.complexity).roundToInteger)
  return "CO2DE Analysis: " ++ m.carbon.text ++ " " ++ carbonUnit ++ s!" | Score: {score}/10"

end Footprint
