import Footprint.Script.Module
import Footprint.Syntax.Walk

/-! Whole programs. Pursuing a goal costs one of a supply that depends on the length of the text; every
chain of goals that takes no token is short, so that the supply lasts. -/
namespace Footprint.Script

open Syntax Step

def production (g : Pursuit) : Pursuit
  | .statement => statement g
  | .expression => expression g
  | .assignment => assignment g
  | .operand level => operand g level
  | .unary => unary g
  | .leftSide => leftSide g
  | .bindingTarget => bindingTarget g
  | .block => block g
  | .markupElement => markupElement g
  | .type => type g
  | .plainType => plainType g

def pursue : Nat → Pursuit
  | 0, _ => refuse
  | supply + 1, goal => production (pursue supply) goal

/-- The first line may name what runs the program. -/
def withoutRunLine (text : List Char) : List Char :=
  match text with
  | '#' :: '!' :: rest => rest.dropWhile fun c => !isLineEnd c
  | text => text

def program (supply : Nat) : Step :=
  node .program (repeatUntil (·.atEnd) (pursue supply .statement))

def parse? (dialect : Dialect) (text : String) : Option Tree :=
  let chars := text.toList
  let bound := chars.length + 1
  let start : State :=
    { dialect, limits := ⟨false, false⟩,
      token := nextToken (!dialect.types) true (withoutRunLine chars),
      pile := [], height := 0, bound }
  match program (16 * bound + 16) start with
  | none => none
  | some s =>
    match s.top? with
    | none => none
    | some t => if t.walk.any isStrayPattern then none else some t

end Footprint.Script
