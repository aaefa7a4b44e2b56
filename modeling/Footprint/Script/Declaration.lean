import Footprint.Script.Statement

/-! Declarations of types and name spaces. -/
namespace Footprint.Script

open Syntax Step

def State.wordOnLine (s : State) (w : String) : Bool :=
  s.isWord w && s.peek.isName && !s.peek.afterLineEnd

def typeAlias (g : Pursuit) : Step :=
  node .typeDeclaration
    (word "type" >=> name >=> optionalTypeParameters g >=> mark "=" >=> g .type >=> semicolon)

def interface (g : Pursuit) : Step :=
  node .typeDeclaration
    (word "interface" >=> name >=> optionalTypeParameters g >=>
      whenever (·.isWord "extends") (skip >=> commas (g .type)) >=> objectType g)

def enumMember (g : Pursuit) : Step :=
  key g >=> whenever (·.isMark "=") (skip >=> g .assignment)

def enumDeclaration (g : Pursuit) : Step :=
  node .enumDeclaration
    (whenever (·.isWord "const") skip >=> word "enum" >=> name >=> mark "\x7b" >=>
      free (commaList "\x7d" (enumMember g)) >=> mark "\x7d")

/-- A name space by its dotted name, or a module by the text it is imported under. The contents of a
module may be left out. -/
def namespaceDeclaration (g : Pursuit) : Step :=
  node .namespaceDeclaration
    (skip >=>
      branch (·.token.kind == .string) (leaf .string >=> branch (·.isMark "\x7b") (g .block) semicolon)
        (name >=> repeatWhile (·.isMark ".") (skip >=> propertyName) >=> g .block))

def State.atNamespace (s : State) : Bool :=
  s.wordOnLine "namespace" || s.wordOnLine "module" ||
    (s.isWord "module" && s.peek.kind == .string && !s.peek.afterLineEnd)

def globalDeclaration (g : Pursuit) : Step := node .namespaceDeclaration (word "global" >=> g .block)

def State.atAbstractClass (s : State) : Bool :=
  s.isWord "abstract" && s.peek.isWord "class" && !s.peek.afterLineEnd

def State.atConstEnum (s : State) : Bool := s.isWord "const" && s.peek.isWord "enum"

/-- Words that a declaration of something defined elsewhere may start with. -/
def declarable : List String :=
  ["var", "let", "const", "function", "class", "abstract", "enum", "namespace", "module", "global",
    "type", "interface", "async"]

def State.atAmbient (s : State) : Bool :=
  s.isWord "declare" && s.peek.kind == .word && !s.peek.afterLineEnd &&
    declarable.contains s.peek.text

/-- A declaration of something that only types make, if one starts here. -/
def plainDeclaration? (g : Pursuit) (s : State) : Option Step :=
  if s.wordOnLine "type" then some (typeAlias g)
  else if s.wordOnLine "interface" then some (interface g)
  else if s.isWord "enum" || s.atConstEnum then some (enumDeclaration g)
  else if s.atNamespace then some (namespaceDeclaration g)
  else if s.atAbstractClass then some (classDeclaration g)
  else none

def ambientSubject (g : Pursuit) : Step := fun s =>
  match plainDeclaration? g s with
  | some step => step s
  | none =>
    if s.isWord "global" then globalDeclaration g s
    else if s.atVariables then variableDeclaration g s
    else if s.isWord "function" || s.atAsyncFunction then functionDeclaration g s
    else if s.isWord "class" then namedClass g s
    else none

def ambientDeclaration (g : Pursuit) : Step :=
  node .ambientDeclaration (word "declare" >=> ambientSubject g)

def typedDeclaration? (g : Pursuit) (s : State) : Option Step :=
  if !s.dialect.types then none
  else if s.atAmbient then some (ambientDeclaration g)
  else plainDeclaration? g s

end Footprint.Script
