import Footprint.Script.Expression

/-! Statements and declarations. -/
namespace Footprint.Script

open Syntax Step

def block (g : Pursuit) : Step :=
  node .block (mark "\x7b" >=> free (repeatUntil (·.isMark "\x7d") (g .statement)) >=> mark "\x7d")

def condition (g : Pursuit) : Step :=
  node .parenthesized (mark "(" >=> free (g .expression) >=> mark ")")

def declarator (g : Pursuit) : Step :=
  node .variableDeclarator
    (as .name (g .bindingTarget) >=>
      whenever (fun s => s.dialect.types && s.isMark "!") skip >=>
      optionalAscription g >=>
      whenever (·.isMark "=") (skip >=> as .value (g .assignment)))

/-- Whether a declaration of variables starts here: `let` and `using` may be names too. -/
def State.atVariables (s : State) : Bool :=
  let next := s.peek
  s.isWord "var" || s.isWord "const" ||
    (s.isWord "let" && (next.isMark "[" || next.isMark "\x7b" || next.isName)) ||
    (s.isWord "using" && next.isName && !next.afterLineEnd && !next.isWord "of") ||
    (s.isWord "await" && next.isWord "using" && !next.afterLineEnd &&
      (nextToken (!s.dialect.types) false next.rest).isName)

def variableKeyword : Step := whenever (·.isWord "await") skip >=> skip

def variableDeclaration (g : Pursuit) : Step :=
  node .variableDeclaration (variableKeyword >=> commas (declarator g) >=> semicolon)

def ifStatement (g : Pursuit) : Step :=
  node .ifStatement
    (word "if" >=> condition g >=> g .statement >=>
      whenever (·.isWord "else") (skip >=> g .statement))

def whileStatement (g : Pursuit) : Step :=
  node .whileStatement (word "while" >=> condition g >=> as .body (g .statement))

def doStatement (g : Pursuit) : Step :=
  node .doStatement
    (word "do" >=> as .body (g .statement) >=> word "while" >=> condition g >=> optionalMark ";")

def withStatement (g : Pursuit) : Step :=
  node .withStatement (word "with" >=> condition g >=> g .statement)

def loopOver (g : Pursuit) (start : Nat) : Step := fun s =>
  ((skip >=> free (g .expression) >=> mark ")" >=> as .body (g .statement)) s).map
    (·.gather start .forInStatement)

def loopWhile (g : Pursuit) (start : Nat) : Step := fun s =>
  ((mark ";" >=> free (whenever (fun s => !s.isMark ";") (g .expression)) >=> mark ";" >=>
    free (whenever (fun s => !s.isMark ")") (g .expression)) >=> mark ")" >=>
    as .body (g .statement)) s).map (·.gather start .forStatement)

def State.atLoopOver (s : State) : Bool := s.isWord "of" || s.isWord "in"

def forDeclared (g : Pursuit) (start : Nat) : Step := fun s =>
  match (variableKeyword >=> g .bindingTarget >=> optionalAscription g) s with
  | none => none
  | some t =>
    if t.atLoopOver then loopOver g start t
    else
      let first :=
        under (fun l => { l with noIn := true })
          (variableKeyword >=> commas (declarator g)) s
      match first with
      | none => none
      | some t =>
        if t.isWord "in" then loopOver g start t
        else loopWhile g start (t.gather s.height .variableDeclaration)

def forAssigned (g : Pursuit) (start : Nat) : Step := fun s =>
  if s.isMark ";" then loopWhile g start s
  else
    match under (fun l => { l with noIn := true }) (g .expression) s with
    | none => none
    | some t =>
      if t.atLoopOver then
        match t.top?.bind (toTarget? false) with
        | some target => loopOver g start (t.setTop target)
        | none => none
      else loopWhile g start t

def forStatement (g : Pursuit) : Step := fun s =>
  (word "for" >=> whenever (·.isWord "await") skip >=> mark "(" >=>
    branch (·.atVariables) (forDeclared g s.height) (forAssigned g s.height)) s

def switchClause (g : Pursuit) : Step :=
  node .switchClause
    (branch (·.isWord "case") (skip >=> free (g .expression)) (word "default") >=> mark ":" >=>
      repeatUntil (fun s => s.isMark "\x7d" || s.isWord "case" || s.isWord "default") (g .statement))

def switchStatement (g : Pursuit) : Step :=
  node .switchStatement
    (word "switch" >=> condition g >=> mark "\x7b" >=>
      repeatUntil (·.isMark "\x7d") (switchClause g) >=> mark "\x7d")

def catchClause (g : Pursuit) : Step :=
  node .catchClause
    (word "catch" >=>
      whenever (·.isMark "(") (skip >=> g .bindingTarget >=> optionalAscription g >=> mark ")") >=>
      g .block)

def finallyClause (g : Pursuit) : Step := node .finallyClause (word "finally" >=> g .block)

/-- A block with at least one clause behind it. -/
def tryStatement (g : Pursuit) : Step :=
  node .tryStatement
    (word "try" >=> g .block >=>
      branch (·.isWord "catch") (catchClause g >=> whenever (·.isWord "finally") (finallyClause g))
        (finallyClause g))

/-- A jump to the end or the next round of a loop, by its label if one follows on the line. -/
def jump (kind : Kind) : Step :=
  node kind (skip >=> whenever (fun s => s.isName && !s.token.afterLineEnd) name >=> semicolon)

def State.atStatementEnd (s : State) : Bool :=
  s.isMark ";" || s.isMark "\x7d" || s.atEnd || s.token.afterLineEnd

def returnStatement (g : Pursuit) : Step :=
  node .returnStatement
    (word "return" >=> whenever (fun s => !s.atStatementEnd) (g .expression) >=> semicolon)

def throwStatement (g : Pursuit) : Step :=
  node .throwStatement
    (word "throw" >=> branch (·.token.afterLineEnd) refuse (g .expression) >=> semicolon)

def expressionStatement (g : Pursuit) : Step :=
  node .expressionStatement (g .expression >=> semicolon)

def labeledStatement (g : Pursuit) : Step :=
  node .labeledStatement (name >=> mark ":" >=> g .statement)

def classDeclaration (g : Pursuit) : Step := node .classDeclaration (decorators g >=> classParts g)

def namedClass (g : Pursuit) : Step := fun s =>
  (classDeclaration g s).filter fun t => (t.top?.bind (·.child? .name)).isSome

/-- Statements that a reserved word opens, apart from those of modules. -/
def keywordStatement (g : Pursuit) : Step := fun s =>
  match s.token.text with
  | "if" => ifStatement g s
  | "for" => forStatement g s
  | "while" => whileStatement g s
  | "do" => doStatement g s
  | "switch" => switchStatement g s
  | "try" => tryStatement g s
  | "return" => returnStatement g s
  | "throw" => throwStatement g s
  | "break" => jump .breakStatement s
  | "continue" => jump .continueStatement s
  | "debugger" => node .debuggerStatement (skip >=> semicolon) s
  | "with" => withStatement g s
  | "function" => functionDeclaration g s
  | "class" => classDeclaration g s
  | _ => expressionStatement g s

end Footprint.Script
