import Footprint.Cyclomatic.Statement

/-! Whole sources of Python. Pursuing a goal costs one of a supply
that depends on the length of the text; every chain of goals that takes no token is short, so that the
supply lasts. -/
namespace Footprint.Cyclomatic

open Syntax.Step Step

def production (g : Pursuit) : Pursuit
  | .expression => expression g
  | .disjunction => disjunction g
  | .inversion => inversion g
  | .factor => factor g
  | .primary => primary g
  | .pattern => pattern g
  | .statement => statement g

def pursue : Nat → Pursuit
  | 0, _ => refuse
  | supply + 1, goal => production (pursue supply) goal

def parse? (text : String) : Option (List Outline) := do
  let chars := text.toList
  let bound := chars.length + 2
  let tokens ← tokens? chars
  let start : State := ⟨tokens, 0, .other, [], bound⟩
  let done ← repeatUntil (·.atEnd) (pursue (16 * bound) .statement) start
  some done.outlines.reverse

end Footprint.Cyclomatic
