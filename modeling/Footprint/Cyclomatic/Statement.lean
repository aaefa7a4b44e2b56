import Footprint.Cyclomatic.Pattern

/-! Statements. A branch decides once, a loop once and once more by its `else`, a `try` once for each
handler and its `else`, a `match` once for each case unless it takes anything; an assertion decides once,
whatever it asserts. -/
namespace Footprint.Cyclomatic

open Syntax.Step Step

/-! ### Statements on a line -/

def assignedValues (g : Pursuit) : Step :=
  repeatWhile (·.isMark "=")
    (ensure Shape.isTarget >=> skip >=> branch (·.isKeyword "yield") (yield g) (items g))

def augmentedMarks : List String :=
  ["+=", "-=", "*=", "@=", "/=", "%=", "&=", "|=", "^=", "<<=", ">>=", "**=", "//="]

def expressionStatement (g : Pursuit) : Step :=
  items g >=>
    branch (·.isMark ":")
      (ensure Shape.isSingle >=> skip >=> g .expression >=>
        whenever (·.isMark "=") (skip >=> yieldOrItems g))
      (branch (·.isAnyMark augmentedMarks)
        (ensure Shape.isSingle >=> skip >=> yieldOrItems g)
        (assignedValues g))

def returnStatement (g : Pursuit) : Step := keyword "return" >=> whenever (·.startsItem) (items g)

def raiseStatement (g : Pursuit) : Step :=
  keyword "raise" >=>
    whenever (·.startsExpression)
      (g .expression >=> whenever (·.isKeyword "from") (skip >=> g .expression))

def names : Step := skip >=> name >=> repeatWhile (·.isMark ",") (skip >=> name)

/-- Targets that are deleted cannot be starred. -/
def deleteStatement (g : Pursuit) : Step :=
  keyword "del" >=> row (g .primary >=> ensure Shape.isTarget) >=> ensure (fun a => !a.hasStar)

def assertStatement (g : Pursuit) : Step :=
  uncounted (keyword "assert" >=> g .expression >=> whenever (·.isMark ",") (skip >=> g .expression)) >=>
    count 1

def importedAs : Step := whenever (·.isKeyword "as") (skip >=> name)

def dottedName : Step := name >=> repeatWhile (·.isMark ".") (skip >=> name)

def importStatement : Step :=
  keyword "import" >=> dottedName >=> importedAs >=>
    repeatWhile (·.isMark ",") (skip >=> dottedName >=> importedAs)

/-- What is imported from a module: everything, or names, which parentheses may enclose. -/
def importedNames : Step :=
  branch (·.isMark "*") skip
    (branch (·.isMark "(") (skip >=> commas (·.isMark ")") (name >=> importedAs) >=> mark ")")
      (name >=> importedAs >=> repeatWhile (·.isMark ",") (skip >=> name >=> importedAs)))

/-- Points in front of the module count from the place of the importing one. -/
def fromStatement : Step :=
  keyword "from" >=>
    (fun s =>
      let points : State → Bool := (·.isAnyMark [".", "..."])
      (repeatWhile points skip >=>
        branch (fun t => points s && t.isKeyword "import") accept dottedName) s) >=>
    keyword "import" >=> importedNames

def smallStatement (g : Pursuit) : Step := fun s =>
  match s.tokens with
  | .keyword "pass" :: _ | .keyword "break" :: _ | .keyword "continue" :: _ => skip s
  | .keyword "return" :: _ => returnStatement g s
  | .keyword "raise" :: _ => raiseStatement g s
  | .keyword "global" :: _ | .keyword "nonlocal" :: _ => names s
  | .keyword "del" :: _ => deleteStatement g s
  | .keyword "yield" :: _ => yield g s
  | .keyword "assert" :: _ => assertStatement g s
  | .keyword "import" :: _ => importStatement s
  | .keyword "from" :: _ => fromStatement s
  | _ => expressionStatement g s

def line (g : Pursuit) : Step :=
  smallStatement g >=>
    repeatWhile (·.isMark ";") (skip >=> whenever (fun s => !s.atLineEnd) (smallStatement g)) >=>
    lineEnd

/-! ### Statements with blocks -/

def block (g : Pursuit) : Step :=
  mark ":" >=>
    branch (·.atLineEnd)
      (skip >=> indent >=> g .statement >=> repeatUntil (·.atDedent) (g .statement) >=> dedent)
      (gather .statement (line g))

def elseBlock (g : Pursuit) : Step := keyword "else" >=> block g

def decidingElse (g : Pursuit) : Step := whenever (·.isKeyword "else") (elseBlock g >=> count 1)

def ifStatement (g : Pursuit) : Step :=
  decision >=> named g >=> block g >=>
    repeatWhile (·.isKeyword "elif") (decision >=> named g >=> block g) >=>
    whenever (·.isKeyword "else") (elseBlock g)

def whileStatement (g : Pursuit) : Step := decision >=> named g >=> block g >=> decidingElse g

def forStatement (g : Pursuit) : Step :=
  decision >=> targets g >=> keyword "in" >=> items g >=> block g >=> decidingElse g

def withItem (g : Pursuit) : Step :=
  g .expression >=> whenever (·.isKeyword "as") (skip >=> target g)

def enclosedWithItems (g : Pursuit) : Step :=
  mark "(" >=> commas (·.isMark ")") (withItem g) >=> mark ")" >=> branch (·.isMark ":") accept refuse

def withStatement (g : Pursuit) : Step :=
  keyword "with" >=>
    either (enclosedWithItems g)
      (withItem g >=> repeatWhile (·.isMark ",") (skip >=> withItem g)) >=>
    block g

def exceptionName : Step := whenever (·.isKeyword "as") (skip >=> name)

/-- A handler of exceptions, or one of groups of them, which does not decide. -/
def handler (g : Pursuit) (groups : Bool) : Step :=
  keyword "except" >=>
    (if groups then mark "*" >=> g .expression >=> exceptionName
      else count 1 >=> whenever (fun s => !s.isMark ":") (g .expression >=> exceptionName)) >=>
    block g

def handlers (g : Pursuit) : Step := fun s =>
  let groups := s.next.isMark "*"
  (handler g groups >=> repeatWhile (·.isKeyword "except") (handler g groups) >=>
    (if groups then whenever (·.isKeyword "else") (elseBlock g) else decidingElse g)) s

def finallyBlock (g : Pursuit) : Step := keyword "finally" >=> block g

def tryStatement (g : Pursuit) : Step :=
  keyword "try" >=> block g >=>
    branch (·.isKeyword "except") (handlers g >=> whenever (·.isKeyword "finally") (finallyBlock g))
      (finallyBlock g)

/-- One case of a `match`. It decides; one that takes anything is told by the shape left behind. -/
def case (g : Pursuit) : Step :=
  only (·.isWord "case") >=> casePattern g >=>
    fun s =>
      ((whenever (·.isKeyword "if") (skip >=> named g) >=> block g >=> count 1) s).map fun t =>
        { t with shape := s.shape }

/-- Cases up to the end of the block; one less if any of them takes anything. -/
def cases (g : Pursuit) : (fuel : Nat) → (takesAny : Bool) → Step
  | 0, _ => refuse
  | fuel + 1, takesAny => fun s =>
    match case g s with
    | none => none
    | some t =>
      let takesAny := takesAny || t.shape == .name
      if t.atDedent then some { t with decisions := t.decisions - takesAny.toNat }
      else cases g fuel takesAny t

def matchHead (g : Pursuit) : Step :=
  only (·.isWord "match") >=> valueOrRow g >=> mark ":" >=> lineEnd >=> indent

def matchStatement (g : Pursuit) : Step := (fun s => cases g s.bound false s) >=> dedent

/-! ### Definitions -/

def functionDefinition (g : Pursuit) : Step :=
  gather (fun _ body => .function body)
    (keyword "def" >=> name >=> mark "(" >=> parameters g .definition >=> mark ")" >=>
      whenever (·.isMark "->") (skip >=> g .expression) >=> block g)

def classDefinition (g : Pursuit) : Step :=
  gather (fun _ body => .classBody body)
    (keyword "class" >=> name >=> whenever (·.isMark "(") (arguments g false) >=> block g)

def decorator (g : Pursuit) : Step := uncounted (mark "@" >=> named g >=> lineEnd)

def decorated (g : Pursuit) : Step :=
  repeatWhile (·.isMark "@") (decorator g) >=>
    whenever (fun s => s.isKeyword "async" && s.next.isKeyword "def") skip >=>
    branch (·.isKeyword "class") (classDefinition g) (functionDefinition g)

def asyncStatement (g : Pursuit) : Step :=
  skip >=> fun s =>
    match s.tokens with
    | .keyword "def" :: _ => functionDefinition g s
    | .keyword "for" :: _ => forStatement g s
    | .keyword "with" :: _ => withStatement g s
    | _ => none

def lineOrMatch (g : Pursuit) : Step := fun s =>
  match matchHead g s with
  | some t => matchStatement g t
  | none => line g s

def anyStatement (g : Pursuit) : Step := fun s =>
  match s.tokens with
  | .keyword "if" :: _ => ifStatement g s
  | .keyword "while" :: _ => whileStatement g s
  | .keyword "for" :: _ => forStatement g s
  | .keyword "with" :: _ => withStatement g s
  | .keyword "try" :: _ => tryStatement g s
  | .keyword "def" :: _ => functionDefinition g s
  | .keyword "class" :: _ => classDefinition g s
  | .keyword "async" :: _ => asyncStatement g s
  | .mark "@" :: _ => decorated g s
  | _ => lineOrMatch g s

def statement (g : Pursuit) : Step := gather .statement (anyStatement g)

end Footprint.Cyclomatic
