import Footprint.Script.Declaration

/-! Imports and exports. -/
namespace Footprint.Script

open Syntax Step

/-- The name of what a module exports: a word of any kind or a string. -/
def moduleName : Step := fun s =>
  match s.token.kind with
  | .word => leaf .identifier s
  | .string => leaf .string s
  | _ => none

def State.atTypeOnly (s : State) : Bool :=
  let next := s.peek
  s.dialect.types && s.isWord "type" &&
    (next.isMark "\x7b" || next.isMark "*" || (next.kind == .word && !next.isWord "from"))

/-- One name in braces, and the name it is known under on the other side. -/
def specifier : Step :=
  whenever (fun s => s.dialect.types && s.isWord "type" && !s.peek.isWord "as" &&
      (s.peek.kind == .word || s.peek.kind == .string)) skip >=>
    moduleName >=> whenever (·.isWord "as") (skip >=> moduleName)

def specifiers : Step := mark "\x7b" >=> commaList "\x7d" specifier >=> mark "\x7d"

def moduleText : Step := branch (·.token.kind == .string) (leaf .string) refuse

def importAttributes (g : Pursuit) : Step :=
  whenever (fun s => s.isWord "with" || (s.isWord "assert" && !s.token.afterLineEnd))
    (skip >=> object g)

def fromModule (g : Pursuit) : Step := word "from" >=> moduleText >=> importAttributes g

def importAll : Step := mark "*" >=> word "as" >=> name

def importBraces : Step := branch (·.isMark "*") importAll specifiers

def importClause : Step :=
  branch (·.isName) (name >=> whenever (·.isMark ",") (skip >=> importBraces)) importBraces

def importAlias (g : Pursuit) : Step :=
  name >=> mark "=" >=>
    branch (fun s => s.isWord "require" && s.peek.isMark "(")
      (skip >=> mark "(" >=> moduleText >=> mark ")") (typeName) >=>
    fun s => (importAttributes g >=> semicolon) s

def importStatement (g : Pursuit) : Step :=
  node .importStatement
    (word "import" >=>
      whenever (·.atTypeOnly) skip >=>
      branch (·.token.kind == .string) (leaf .string >=> importAttributes g >=> semicolon)
        (branch (fun s => s.dialect.types && s.isName && s.peek.isMark "=") (importAlias g)
          (importClause >=> fromModule g >=> semicolon)))

/-- What is exported as a module's default. A function or class without a name is a value there, and ends
as one. -/
def exportDefault (g : Pursuit) : Step := fun s =>
  let value : Step := g .assignment >=> semicolon
  if s.isWord "function" || s.atAsyncFunction then either (functionDeclaration g) value s
  else if s.isWord "class" || s.isMark "@" then either (namedClass g) value s
  else if s.dialect.types && s.atAbstractClass then classDeclaration g s
  else if s.dialect.types && s.wordOnLine "interface" then interface g s
  else value s

def exportList (g : Pursuit) : Step :=
  specifiers >=> whenever (·.isWord "from") (fromModule g) >=> semicolon

def exportAll (g : Pursuit) : Step :=
  mark "*" >=> whenever (·.isWord "as") (skip >=> moduleName) >=> fromModule g >=> semicolon

def State.atExportable (s : State) : Bool :=
  s.atVariables || s.isWord "function" || s.atAsyncFunction

def exportStatement (g : Pursuit) : Step :=
  node .exportStatement
    (decorators g >=> word "export" >=>
      branch (·.isWord "default") (skip >=> exportDefault g)
        (branch (fun s => s.dialect.types && s.isMark "=") (skip >=> g .expression >=> semicolon)
          (branch (fun s => s.dialect.types && s.isWord "as")
            (skip >=> word "namespace" >=> name >=> semicolon)
            (branch (fun s => s.dialect.types && s.isWord "import") (importStatement g)
              (branch (fun s => s.dialect.types && s.isWord "type" &&
                  (s.peek.isMark "\x7b" || s.peek.isMark "*")) skip accept >=>
                branch (·.isMark "*") (exportAll g)
                  (branch (·.isMark "\x7b") (exportList g)
                    fun s =>
                      match typedDeclaration? g s with
                      | some step => step s
                      | none =>
                        if s.isWord "class" || s.isMark "@" then namedClass g s
                        else if s.atExportable then g .statement s
                        else none))))))

def decorated (g : Pursuit) : Step := fun s =>
  (decorators g s).bind fun t =>
    if t.isWord "export" then exportStatement g s else classDeclaration g s

/-- Words that begin an expression are no labels. -/
def State.atLabel (s : State) : Bool :=
  s.isName && s.peek.isMark ":" && !(s.isWord "await" || s.isWord "yield")

def wordStatement (g : Pursuit) : Step := fun s =>
  if s.isWord "import" && !(s.peek.isMark "(" || s.peek.isMark ".") then importStatement g s
  else if s.isWord "export" then exportStatement g s
  else
    match typedDeclaration? g s with
    | some step => step s
    | none =>
      if s.atVariables then variableDeclaration g s
      else if s.atAsyncFunction then functionDeclaration g s
      else if s.atLabel then labeledStatement g s
      else keywordStatement g s

def statement (g : Pursuit) : Step := fun s =>
  if s.token.kind == .word then wordStatement g s
  else if s.isMark "\x7b" then block g s
  else if s.isMark ";" then node .emptyStatement skip s
  else if s.isMark "@" then decorated g s
  else expressionStatement g s

end Footprint.Script
