import Footprint.Cyclomatic.Formatted
import Footprint.Cyclomatic.Parameter

/-! Expressions. A conjunction, a disjunction, a conditional expression and every clause of a
comprehension decide; which operator binds closer does not matter to their number. -/
namespace Footprint.Cyclomatic

open Syntax.Step Step

namespace State

def startsExpression (s : State) : Bool :=
  s.isName || s.atNumber || s.atString || s.isAnyMark ["(", "[", "\x7b", "-", "+", "~", "..."] ||
    s.isAnyKeyword ["not", "lambda", "await", "None", "True", "False"]

def startsItem (s : State) : Bool := s.startsExpression || s.isMark "*"

def atBinding (s : State) : Bool := s.isName && s.next.isMark ":="

def atClause (s : State) : Bool := s.isAnyKeyword ["for", "async"]

def atOperator (s : State) : Bool :=
  s.isAnyMark ["|", "^", "&", "<<", ">>", "+", "-", "*", "/", "//", "%", "@"]

def atComparison (s : State) : Bool :=
  s.isAnyMark ["==", "!=", "<", "<=", ">", ">="] || s.isAnyKeyword ["in", "is"] ||
    (s.isKeyword "not" && s.next.isKeyword "in")

end State

/-! ### Items -/

def named (g : Pursuit) : Step :=
  branch (·.atBinding) (plain (skip >=> skip >=> g .expression)) (g .expression)

def operand (g : Pursuit) : Step := chain (·.atOperator) skip (g .factor)

def starred (g : Pursuit) : Step := mark "*" >=> operand g >=> reshape Shape.star

def item (g : Pursuit) : Step := branch (·.isMark "*") (starred g) (g .expression)

def namedItem (g : Pursuit) : Step := branch (·.isMark "*") (starred g) (named g)

/-- The comma behind the parts of a row so far, and the next part if there is one. -/
def nextPart (part : Step) : Step := fun s =>
  match mark "," s with
  | none => none
  | some t =>
    if t.startsItem then (part t).map fun u => { u with shape := s.shape.join u.shape }
    else if t.isMark "," then none
    else some { t with shape := s.shape.join s.shape }

def moreParts (part : Step) : Step := repeatWhile (·.isMark ",") (nextPart part)

def row (part : Step) : Step := part >=> moreParts part

def items (g : Pursuit) : Step := row (item g)

def yield (g : Pursuit) : Step :=
  plain
    (keyword "yield" >=>
      branch (·.isKeyword "from") (skip >=> g .expression) (whenever (·.startsItem) (items g)))

def yieldOrItems (g : Pursuit) : Step := branch (·.isKeyword "yield") (yield g) (items g)

/-! ### Comprehensions -/

def target (g : Pursuit) : Step :=
  branch (·.isMark "*") (skip >=> g .primary >=> ensure Shape.isTarget >=> reshape Shape.star)
    (g .primary) >=> ensure Shape.isTarget

def targets (g : Pursuit) : Step := row (target g)

def clause (g : Pursuit) : Step :=
  whenever (·.isKeyword "async") skip >=> only (·.isKeyword "for") >=> count 1 >=> targets g >=>
    keyword "in" >=> g .disjunction >=>
    repeatWhile (·.isKeyword "if") (decision >=> g .disjunction)

def clauses (g : Pursuit) : Step := plain (clause g >=> repeatWhile (·.atClause) (clause g))

/-! ### Arguments and elements -/

/-- What an argument may follow: those by position come first, those by name may follow a mapping. -/
inductive ArgumentOrder where
  | positional
  | byName
  | mapping
  deriving DecidableEq, Repr

def argument (g : Pursuit) (order : ArgumentOrder) (s : State) : Option (ArgumentOrder × State) :=
  if s.isMark "**" then ((skip >=> g .expression) s).map (ArgumentOrder.mapping, ·)
  else if s.isMark "*" then
    if order = .mapping then none else ((skip >=> g .expression) s).map (order, ·)
  else if s.isName && s.next.isMark "=" then
    ((skip >=> skip >=> g .expression) s).map (if order = .mapping then .mapping else .byName, ·)
  else if order = .positional then (named g s).map (order, ·)
  else none

def moreArguments (g : Pursuit) : (fuel : Nat) → ArgumentOrder → Step
  | 0, _ => refuse
  | fuel + 1, order => fun s =>
    if !s.isMark "," then some s
    else if s.next.isMark ")" then some s.next
    else
      match argument g order s.next with
      | some (order, t) => moreArguments g fuel order t
      | none => none

/-- Arguments in parentheses. A generator stands there alone, and not in the head of a class. -/
def arguments (g : Pursuit) (generators : Bool) : Step :=
  mark "(" >=>
    branch (·.isMark ")") accept (fun s =>
      match argument g .positional s with
      | none => none
      | some (order, t) =>
        if generators && order == .positional && !s.isMark "*" && t.atClause then clauses g t
        else moreArguments g t.bound order t) >=>
    mark ")"

def sliceBound (g : Pursuit) : Step := whenever (·.startsExpression) (g .expression)

def sliceRest (g : Pursuit) : Step :=
  mark ":" >=> sliceBound g >=> whenever (·.isMark ":") (skip >=> sliceBound g)

def slice (g : Pursuit) : Step := fun s =>
  if s.isMark "*" then starOrExpression g s
  else if s.isMark ":" then sliceRest g s
  else if s.atBinding then named g s
  else (g .expression >=> whenever (·.isMark ":") (sliceRest g)) s

def slices (g : Pursuit) : Step :=
  mark "[" >=> commas (·.isMark "]") (slice g) >=> mark "]"

def trailer (g : Pursuit) : Step := fun s =>
  if s.isMark "." then (skip >=> name >=> reshape fun _ => .place) s
  else if s.isMark "(" then plain (arguments g true) s
  else (slices g >=> reshape fun _ => .place) s

/-! ### Atoms -/

def valueOrRow (g : Pursuit) : Step :=
  branch (·.isMark "*") (starred g >=> branch (·.isMark ",") (moreParts (namedItem g)) refuse)
    (named g >=> moreParts (namedItem g))

/-- What follows a first element: the clauses of a comprehension, or more elements. -/
def clausesOrParts (g : Pursuit) : Step :=
  branch (·.atClause) (clauses g) (moreParts (namedItem g))

def elements (g : Pursuit) : Step :=
  branch (·.isMark "*") (row (namedItem g)) (named g >=> clausesOrParts g)

def parenthesized (g : Pursuit) : Step :=
  mark "(" >=>
    branch (·.isMark ")") (reshape fun _ => .sequence false)
      (branch (·.isKeyword "yield") (yield g)
        (branch (·.isMark "*") (valueOrRow g) (elements g))) >=>
    mark ")"

def list (g : Pursuit) : Step :=
  mark "[" >=>
    branch (·.isMark "]") (reshape fun _ => .sequence false)
      (elements g >=> reshape fun a => a.join a) >=>
    mark "]"

def pair (g : Pursuit) : Step :=
  branch (·.isMark "**") (skip >=> operand g) (g .expression >=> mark ":" >=> g .expression)

def morePairs (g : Pursuit) : Step :=
  repeatWhile (·.isMark ",") (skip >=> whenever (fun s => !s.isMark "\x7d") (pair g))

/-- What follows a first expression in braces: its value if it is a key, else as in brackets. -/
def bracedRest (g : Pursuit) : Step :=
  branch (·.isMark ":")
    (skip >=> g .expression >=> branch (·.atClause) (clauses g) (morePairs g))
    (clausesOrParts g)

def braced (g : Pursuit) : Step :=
  plain
    (mark "\x7b" >=>
      (fun s =>
        if s.isMark "\x7d" then some s
        else if s.isMark "**" then (pair g >=> morePairs g) s
        else if s.isMark "*" || s.atBinding then elements g s
        else (g .expression >=> bracedRest g) s) >=>
      mark "\x7d")

def insideString (g : Pursuit) (text : List Char) : Step := fun s => do
  let tokens ← tokens? ('(' :: text ++ [')'])
  let t ← g .primary { s with tokens }
  match t.tokens with
  | [.lineEnd] => some { t with tokens := s.tokens }
  | _ => none

def string (g : Pursuit) (bytes : Bool) : Step := fun s =>
  match s.tokens with
  | .string q :: rest => do
    if q.bytes != bytes then none
    (← q.expressions?).foldlM (fun s text => insideString g text s) { s with tokens := rest }
  | _ => none

def strings (g : Pursuit) : Step := fun s =>
  match s.tokens with
  | .string q :: _ => plain (repeatWhile (·.atString) (string g q.bytes)) s
  | _ => none

def atom (g : Pursuit) : Step := fun s =>
  match s.tokens with
  | .name _ :: _ => (skip >=> reshape fun _ => .name) s
  | .number _ :: _ => plain skip s
  | .string _ :: _ => strings g s
  | .keyword w :: _ => if w = "None" ∨ w = "True" ∨ w = "False" then plain skip s else none
  | .mark "..." :: _ => plain skip s
  | .mark "(" :: _ => parenthesized g s
  | .mark "[" :: _ => list g s
  | .mark "\x7b" :: _ => braced g s
  | _ => none

def primary (g : Pursuit) : Step :=
  atom g >=> repeatWhile (·.isAnyMark [".", "(", "["]) (trailer g)

/-! ### Operators -/

def power (g : Pursuit) : Step :=
  branch (·.isKeyword "await") (plain (skip >=> g .primary)) (g .primary) >=>
    whenever (·.isMark "**") (plain (skip >=> g .factor))

def factor (g : Pursuit) : Step :=
  branch (·.isAnyMark ["+", "-", "~"]) (plain (skip >=> g .factor)) (power g)

def comparisonOperator : Step := fun s =>
  if s.isKeyword "not" then (skip >=> skip) s
  else if s.isKeyword "is" then (skip >=> whenever (·.isKeyword "not") skip) s
  else skip s

def inversion (g : Pursuit) : Step :=
  branch (·.isKeyword "not") (plain (skip >=> g .inversion))
    (chain (·.atComparison) comparisonOperator (operand g))

def conjunction (g : Pursuit) : Step := chain (·.isKeyword "and") decision (g .inversion)

def disjunction (g : Pursuit) : Step := chain (·.isKeyword "or") decision (conjunction g)

def lambda (g : Pursuit) : Step :=
  plain (keyword "lambda" >=> parameters g .lambda >=> mark ":" >=> g .expression)

def expression (g : Pursuit) : Step :=
  branch (·.isKeyword "lambda") (lambda g)
    (g .disjunction >=>
      whenever (·.isKeyword "if")
        (plain (decision >=> g .disjunction >=> keyword "else" >=> g .expression)))

end Footprint.Cyclomatic
