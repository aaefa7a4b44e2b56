import Footprint.Cyclomatic.Expression

/-! Patterns of cases. The shape of a pattern is a name if it takes any value, by a name or by `_`. -/
namespace Footprint.Cyclomatic

open Syntax.Step Step

namespace State

def isWildcard (s : State) : Bool := s.isWord "_"

def atImaginary (s : State) : Bool :=
  match s.tokens with
  | .number true :: _ => true
  | _ => false

end State

def captureName : Step := only fun s => s.isName && !s.isWildcard

def numberPattern : Step :=
  optionalMark "-" >=> fun s =>
    (only (·.atNumber) >=>
      whenever (·.isAnyMark ["+", "-"])
        (if s.atImaginary then refuse else skip >=> only (·.atImaginary))) s

def literalPattern (g : Pursuit) : Step := fun s =>
  if s.atNumber || s.isMark "-" then numberPattern s
  else if s.atString then strings g s
  else only (·.isAnyKeyword ["None", "True", "False"]) s

def dottedRest : Step := repeatWhile (·.isMark ".") (skip >=> name)

def starPattern : Step := mark "*" >=> name

def patternItem (g : Pursuit) : Step := branch (·.isMark "*") starPattern (g .pattern)

def patternItems (g : Pursuit) (close : String) : Step :=
  whenever (fun s => !s.isMark close) (commas (·.isMark close) (patternItem g))

def keyPattern (g : Pursuit) : Step :=
  branch (·.isName) (name >=> branch (·.isMark ".") dottedRest refuse) (literalPattern g) >=>
    mark ":" >=> g .pattern

def mappingPattern (g : Pursuit) : Step :=
  mark "\x7b" >=>
    repeatUntil (·.isMark "\x7d")
      (branch (·.isMark "**")
        (skip >=> captureName >=> optionalMark "," >=> branch (·.isMark "\x7d") accept refuse)
        (keyPattern g >=> branch (·.isMark "\x7d") accept (mark ","))) >=>
    mark "\x7d"

def memberPatterns (g : Pursuit) : (fuel : Nat) → (byName : Bool) → Step
  | 0, _ => refuse
  | fuel + 1, byName => fun s =>
    if s.isMark ")" then some s
    else
      let isNamed := s.isName && s.next.isMark "="
      if byName && !isNamed then none
      else
        match branch (fun _ => isNamed) (skip >=> skip >=> g .pattern) (g .pattern) s with
        | none => none
        | some t =>
          if t.isMark "," then memberPatterns g fuel (byName || isNamed) t.next
          else if t.isMark ")" then some t
          else none

/-- A name that is bound, a value under a name with points, or a class with patterns of its members. -/
def namePattern (g : Pursuit) : Step := fun s =>
  if s.isWildcard then (skip >=> reshape fun _ => .name) s
  else
    match (name >=> dottedRest) s with
    | none => none
    | some t =>
      if t.isMark "(" then
        plain (skip >=> (fun u => memberPatterns g u.bound false u) >=> mark ")") t
      else if s.next.isMark "." then some { t with shape := .other }
      else some { t with shape := .name }

def parenthesizedPattern (g : Pursuit) : Step :=
  mark "(" >=>
    (fun s =>
      if s.isMark ")" then some { s with shape := .other }
      else
        match patternItem g s with
        | none => none
        | some t =>
          if t.isMark "," then plain (skip >=> patternItems g ")") t
          else if s.isMark "*" then none
          else some t) >=>
    mark ")"

def closedPattern (g : Pursuit) : Step := fun s =>
  if s.isName then namePattern g s
  else if s.isMark "(" then parenthesizedPattern g s
  else if s.isMark "[" then plain (skip >=> patternItems g "]" >=> mark "]") s
  else if s.isMark "\x7b" then plain (mappingPattern g) s
  else plain (literalPattern g) s

def pattern (g : Pursuit) : Step :=
  chain (·.isMark "|") skip (closedPattern g) >=>
    whenever (·.isKeyword "as") (plain (skip >=> captureName))

def casePattern (g : Pursuit) : Step := fun s =>
  match patternItem g s with
  | none => none
  | some t =>
    if t.isMark "," then
      plain (skip >=> whenever (fun s => !(s.isMark ":" || s.isKeyword "if"))
        (commas (fun s => s.isMark ":" || s.isKeyword "if") (patternItem g))) t
    else if s.isMark "*" then none
    else some t

end Footprint.Cyclomatic
