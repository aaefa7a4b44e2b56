import Footprint.Script.Function
import Footprint.Script.Markup

/-! Expressions, from the operands that stand alone up to assignments and sequences. -/
namespace Footprint.Script

open Syntax Step

/-- The end of a regular expression: inside brackets a slash is an ordinary character. -/
def regexSpan (inClass : Bool) (taken : List Char) : List Char → Option Span
  | [] => none
  | '\\' :: c :: rest => if isLineEnd c then none else regexSpan inClass (c :: '\\' :: taken) rest
  | c :: rest =>
    if isLineEnd c || c == '\\' then none
    else if inClass then regexSpan (c != ']') (c :: taken) rest
    else if c = '[' then regexSpan true (c :: taken) rest
    else if c = '/' then some (Span.takeWhile isNamePart ('/' :: taken) rest)
    else regexSpan false (c :: taken) rest

/-- A regular expression, read from its first slash, whatever mark that began. -/
def regex : Step := fun s =>
  match s.token.start with
  | '/' :: rest =>
    (regexSpan false ['/'] rest).map fun span => (s.put (.leaf .regex true span.text)).relex span.2
  | _ => none

def spread (g : Pursuit) : Step := node .spread (mark "..." >=> g .assignment)

def spreadOrValue (g : Pursuit) : Step := branch (·.isMark "...") (spread g) (g .assignment)

def arguments (g : Pursuit) : Step :=
  node .arguments (mark "(" >=> free (commaList ")" (spreadOrValue g)) >=> mark ")")

def array (g : Pursuit) : Step :=
  node .array
    (mark "[" >=>
      free (repeatUntil (·.isMark "]")
        (branch (·.isMark ",") skip
          (spreadOrValue g >=> branch (·.isMark "]") accept (mark ",")))) >=>
      mark "]")

/-- Whether the word in front makes the member behind it a method of a kind. -/
def State.atMethodWord (s : State) : Bool :=
  let next := s.peek
  ((s.isWord "get" || s.isWord "set") && next.startsKey) ||
    (s.isWord "async" && (next.startsKey || next.isMark "*") && !next.afterLineEnd)

/-- A method, a pair or a shorthand; the default of a shorthand is for patterns only. -/
def objectMember (g : Pursuit) : Step := fun s =>
  if s.isMark "..." then spread g s
  else
    let special := s.atMethodWord || s.isMark "*"
    let shorthand := s.isName && (s.peek.isMark "," || s.peek.isMark "\x7d" || s.peek.isMark "=")
    if special then
      (whenever (·.atMethodWord) skip >=> optionalMark "*" >=> key g >=>
        fun t => (functionParts g t).map (·.gather s.height .method)) s
    else if shorthand then withDefault g name s
    else
      match key g s with
      | none => none
      | some t =>
        if t.isMark "(" || (t.dialect.types && t.isMark "<") then
          (functionParts g t).map (·.gather s.height .method)
        else ((mark ":" >=> as .value (g .assignment)) t).map (·.gather s.height .pair)

def object (g : Pursuit) : Step :=
  node .object (mark "\x7b" >=> free (commaList "\x7d" (objectMember g)) >=> mark "\x7d")

/-- Whether what stands between parentheses is an expression: not empty, nothing spread, no comma at
the end. -/
def isGrouping (parts : List (Option Field × Tree)) : Bool :=
  match parts.reverse with
  | _ :: last :: _ :: _ =>
    !isToken "," last.2 && parts.all fun c => c.2.kind != .spread
  | _ => false

/-- Parentheses hold an expression, or the parameters of an arrow function if its arrow follows. -/
def parenthesized (g : Pursuit) : Step := fun s =>
  match (mark "(" >=> free (commaList ")" (spreadOrValue g)) >=> mark ")") s with
  | none => none
  | some t =>
    if t.isMark "=>" && !t.token.afterLineEnd then some (t.gather s.height .parameterCover)
    else if isGrouping (t.above s.height) then some (t.gather s.height .parenthesized)
    else none

def State.atAsyncArrow (s : State) : Bool :=
  let next := s.peek
  s.isWord "async" && next.isName && !next.afterLineEnd &&
    (nextToken (!s.dialect.types) false next.rest).isMark "=>"

/-- A module imported in place, or what the importing module knows of itself. -/
def importExpression : Step := fun s =>
  if s.peek.isMark "." then (node .metaProperty (skip >=> skip >=> word "meta")) s
  else if s.peek.isMark "(" then leaf .importKeyword s
  else none

def wordOperand (g : Pursuit) : Step := fun s =>
  if s.isWord "function" || s.atAsyncFunction then functionExpression g s
  else if s.isWord "class" then classExpression g s
  else if s.isWord "this" then leaf .this s
  else if s.isWord "super" then leaf .super s
  else if s.isWord "import" then importExpression s
  else if s.isWord "null" || s.isWord "true" || s.isWord "false" then leaf .propertyIdentifier s
  else if s.isWord "yield" then node .yield skip s
  else if s.atAsyncArrow then node .parameterCover (skip >=> name) s
  else name s

def primary (g : Pursuit) : Step := fun s =>
  match s.token.kind with
  | .number => leaf .number s
  | .string => leaf .string s
  | .template => template (g .expression) s
  | .privateName => if s.peek.isWord "in" then leaf .privateIdentifier s else none
  | .word => wordOperand g s
  | .mark =>
    if s.isMark "(" then parenthesized g s
    else if s.isMark "[" then array g s
    else if s.isMark "\x7b" then object g s
    else if s.isMark "/" || s.isMark "/=" then regex s
    else if s.isMark "<" && s.dialect.markup then (mark "<" >=> g .markupElement >=> closeAngle) s
    else if s.isMark "@" then classExpression g s
    else none
  | _ => none

/-- Whether the arguments of types just read may be followed by the token in front. -/
def State.endsInstantiation (s : State) : Bool :=
  s.isMark "(" || s.token.kind == .template ||
    (!(s.isMark "<" || s.isMark ">" || s.isMark "+" || s.isMark "-") &&
      (s.token.afterLineEnd || s.atEnd || (s.token.kind == .mark && !s.isMark "\x7b" && !s.isMark "[") ||
        s.isMark "\x7b" || s.isWord "in" || s.isWord "instanceof" || s.isWord "as" ||
        s.isWord "satisfies" || s.isWord "implements"))

def callWith (start : Nat) (step : Step) : Step := fun s =>
  (step s).map (·.gatherFirst start .call .callee)

/-- Whether a member, an element, a call or a template follows an operand. Under `new` a call belongs
to the operator. -/
def State.atLink (calls : Bool) (s : State) : Bool :=
  s.isMark "." || s.isMark "?." || s.isMark "[" || (s.isMark "(" && calls) ||
    s.token.kind == .template || (s.dialect.types && s.isMark "!" && !s.token.afterLineEnd)

def chainLink (g : Pursuit) (calls : Bool) (start : Nat) : Step := fun s =>
  let property := skip >=> as .property propertyName
  let element := free (g .expression) >=> mark "]"
  if s.isMark "." then (property s).map (·.gather start .member)
  else if s.isMark "?." then
    if !calls then none
    else if s.peek.isMark "(" then callWith start (skip >=> arguments g) s
    else if s.peek.isMark "[" then ((skip >=> skip >=> element) s).map (·.gather start .subscript)
    else if s.dialect.types && s.peek.isMark "<" then
      callWith start (skip >=> typeArguments g >=> arguments g) s
    else (property s).map (·.gather start .member)
  else if s.isMark "[" then ((skip >=> element) s).map (·.gather start .subscript)
  else if s.isMark "(" then callWith start (arguments g) s
  else if s.isMark "!" then (skip s).map (·.gather start .nonNull)
  else callWith start (template (g .expression)) s

/-- Arguments of types, if what is behind them shows that they are; else the angle compares. -/
def typedLink? (g : Pursuit) (start : Nat) : Step := fun s =>
  (typeArguments g s).bind fun t =>
    if t.isMark "(" then callWith start (arguments g) t
    else if t.token.kind == .template then callWith start (template (g .expression)) t
    else if t.endsInstantiation then some (t.gather start .instantiation)
    else none

def chainLoop (g : Pursuit) (calls : Bool) (start : Nat) : Nat → Step
  | 0, s => some s
  | n + 1, s =>
    if s.atLink calls then
      match chainLink g calls start s with
      | some t => chainLoop g calls start n t
      | none => none
    else if s.dialect.types && s.isMark "<" && calls then
      match typedLink? g start s with
      | some t => chainLoop g calls start n t
      | none => some s
    else some s

def chain (g : Pursuit) (calls : Bool) (operand : Step) : Step := fun s =>
  (operand s).bind fun t => chainLoop g calls s.height s.bound t

/-- `new` with what it makes and the arguments, or the target of the call itself. -/
def newLoop (g : Pursuit) : Nat → Step
  | 0 => refuse
  | n + 1 => fun s =>
    if s.peek.isMark "." then (node .metaProperty (skip >=> skip >=> word "target")) s
    else
      node .new
        (word "new" >=>
          chain g false (branch (·.isWord "new") (newLoop g n) (primary g)) >=>
          whenever (fun s => s.dialect.types && s.isMark "<") (optionally (typeArguments g)) >=>
          whenever (·.isMark "(") (arguments g)) s

def leftSide (g : Pursuit) : Step :=
  chain g true (branch (·.isWord "new") (fun s => newLoop g s.bound s) (primary g))

/-- A step up or down behind its operand must stand on the same line. -/
def postfixStep (g : Pursuit) : Step := fun s =>
  (leftSide g s).bind fun t =>
    if (t.isMark "++" || t.isMark "--") && !t.token.afterLineEnd then
      (skip t).map (·.gather s.height .update)
    else some t

def unaryMarks : List String := ["+", "-", "!", "~"]

def unaryWords : List String := ["typeof", "void", "delete"]

def typeAssertion (g : Pursuit) : Step :=
  node .typedExpression
    (mark "<" >=> branch (·.isWord "const") skip (g .type) >=> closeAngle >=> g .unary)

def unary (g : Pursuit) : Step := fun s =>
  if s.isAnyMark unaryMarks || (s.token.kind == .word && unaryWords.contains s.token.text) then
    node .unary (skip >=> g .unary) s
  else if s.isMark "++" || s.isMark "--" then node .update (skip >=> g .unary) s
  else if s.isWord "await" then node .await (skip >=> g .unary) s
  else if s.dialect.types && !s.dialect.markup && s.isMark "<" then typeAssertion g s
  else postfixStep g s

def markLevels : List (String × Nat) :=
  [("??", 1), ("||", 2), ("&&", 3), ("|", 4), ("^", 5), ("&", 6), ("==", 7), ("!=", 7), ("===", 7),
    ("!==", 7), ("<", 8), (">", 8), ("<=", 8), (">=", 8), ("<<", 9), (">>", 9), (">>>", 9), ("+", 10),
    ("-", 10), ("*", 11), ("/", 11), ("%", 11), ("**", 12)]

def State.operatorLevel? (s : State) : Option Nat :=
  match s.token.kind with
  | .mark => markLevels.lookup s.token.text
  | .word => if s.isWord "instanceof" || (s.isWord "in" && !s.limits.noIn) then some 8 else none
  | _ => none

def State.atTypeClaim (s : State) : Bool :=
  s.dialect.types && (s.isWord "as" || s.isWord "satisfies") && !s.token.afterLineEnd

/-- Operators that bind at least as tightly as a level, gathered from the left; a power is gathered
from the right. -/
def operandLoop (g : Pursuit) (level start : Nat) : Nat → Step
  | 0, s => some s
  | n + 1, s =>
    if s.atTypeClaim && level ≤ 8 then
      match (skip >=> branch (·.isWord "const") skip (g .type)) s with
      | some t => operandLoop g level start n (t.gather start .typedExpression)
      | none => none
    else
      match s.operatorLevel? with
      | none => some s
      | some l =>
        if l < level then some s
        else
          match (skip >=> g (.operand (if l = 12 then 12 else l + 1))) s with
          | some t => operandLoop g level start n (t.gather start .binary)
          | none => none

def operand (g : Pursuit) (level : Nat) : Step := fun s =>
  (unary g s).bind fun t => operandLoop g level s.height s.bound t

def conditional (g : Pursuit) : Step := fun s =>
  (operand g 1 s).bind fun t =>
    if t.isMark "?" then
      ((skip >=> under (fun _ => ⟨false, true⟩) (g .assignment) >=> mark ":" >=> g .assignment) t).map
        (·.gather s.height .conditional)
    else some t

def assignmentMarks : List String :=
  ["=", "+=", "-=", "*=", "/=", "%=", "&=", "|=", "^=", "<<=", ">>=", ">>>=", "**=", "&&=", "||=", "??="]

def arrowBody (g : Pursuit) : Step :=
  mark "=>" >=> branch (·.isMark "\x7b") (as .body (g .block)) (as .body (g .assignment))

def arrowParameters? : Tree → Option Tree
  | .leaf .identifier named text => some (.leaf .identifier named text)
  | .node .parameterCover children => (toTargets? true children).map (.node .parameters)
  | .node .call [(_, .leaf .identifier _ "async"), (_, .node .arguments children)] =>
    (toTargets? true children).map (.node .parameters)
  | _ => none

/-- The function whose parameters have just been read as an expression. -/
def arrowFrom (g : Pursuit) (start : Nat) (cover : Tree) : Step := fun s =>
  (arrowParameters? cover).bind fun ps =>
    (arrowBody g (s.setTop ps)).map (·.gather start .arrowFunction)

/-- The target whose value follows. A target that is changed in place is no pattern. -/
def assignTo (g : Pursuit) (start : Nat) (left : Tree) : Step := fun s =>
  match toTarget? false left with
  | none => none
  | some target =>
    let pattern := target.kind == .arrayPattern || target.kind == .objectPattern
    if pattern && !s.isMark "=" then none
    else
      ((skip >=> g .assignment) (s.setTop target)).map (·.gather start .assignment)

/-- An arrow function whose parameters have types, or may have. A type returned needs a colon behind
the function where one is due. -/
def typedArrow (g : Pursuit) : Step := fun s =>
  match (whenever (·.isWord "async") skip >=> optionalTypeParameters g >=> parameters g) s with
  | none => none
  | some t =>
    let returns := t.isMark ":"
    let finished :=
      (returnAscription g >=> fun u => if u.token.afterLineEnd then none else arrowBody g u) t
    match finished with
    | none => none
    | some u =>
      if returns && s.limits.noReturnType && !u.isMark ":" then none
      else some (u.gather s.height .arrowFunction)

/-- Whether parameters may begin with the parenthesis that ends at `rest`. -/
def mayBeParameters (s : State) (rest : List Char) : Bool :=
  let first := nextToken (!s.dialect.types) false rest
  let second := nextToken (!s.dialect.types) false first.rest
  if first.isMark ")" then second.isMark "=>" || second.isMark ":"
  else if first.isMark "..." || first.isMark "[" || first.isMark "\x7b" || first.isMark "@" then true
  else if first.isWord "this" then second.isMark ":" || second.isMark "," || second.isMark ")"
  else if first.isName then
    second.isMark ":" || second.isMark "," || second.isMark "=" || second.isMark ")" ||
      (second.isMark "?" &&
        let third := nextToken (!s.dialect.types) false second.rest
        third.isMark ":" || third.isMark "," || third.isMark "=" || third.isMark ")")
  else false

/-- Whether an arrow function with types may start here. Between tags an angle starts an element
unless a comma or a bound follows the name in it. -/
def State.mayBeTypedArrow (s : State) : Bool :=
  s.dialect.types &&
    (if s.isMark "(" then mayBeParameters s s.token.rest
    else if s.isMark "<" then
      if s.dialect.markup then
        let name := s.peek
        let after := nextToken false false name.rest
        (name.isName && (after.isMark "," || after.isWord "extends")) || name.isWord "const"
      else true
    else if s.isWord "async" && !s.peek.afterLineEnd then
      (s.peek.isMark "(" && mayBeParameters s s.peek.rest) || s.peek.isMark "<"
    else false)

/-- Whether a value follows `yield`; without one it is an operand like any other. -/
def State.yieldTakesValue (s : State) : Bool :=
  let next := s.peek
  match next.kind with
  | .ending | .invalid => false
  | .word => !(next.afterLineEnd || next.isWord "in" || next.isWord "of" || next.isWord "instanceof")
  | .mark =>
    !next.afterLineEnd &&
      ["*", "(", "[", "\x7b", "+", "-", "!", "~", "++", "--", "/", "/=", "<", "@"].contains next.text
  | _ => !next.afterLineEnd

def yield (g : Pursuit) : Step := node .yield (word "yield" >=> optionalMark "*" >=> g .assignment)

def plainAssignment (g : Pursuit) : Step := fun s =>
  match conditional g s with
  | none => none
  | some t =>
    match t.top? with
    | none => none
    | some left =>
      if t.isMark "=>" && !t.token.afterLineEnd then arrowFrom g s.height left t
      else if t.isAnyMark assignmentMarks then assignTo g s.height left t
      else some t

def assignment (g : Pursuit) : Step := fun s =>
  if s.isWord "yield" && s.yieldTakesValue then yield g s
  else if s.mayBeTypedArrow then either (typedArrow g) (plainAssignment g) s
  else plainAssignment g s

def expression (g : Pursuit) : Step := fun s =>
  (g .assignment s).bind fun t =>
    if t.isMark "," then
      (repeatWhile (·.isMark ",") (skip >=> g .assignment) t).map (·.gather s.height .sequence)
    else some t

end Footprint.Script
