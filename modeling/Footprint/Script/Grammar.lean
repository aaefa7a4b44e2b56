import Footprint.Script.State
import Footprint.Script.Target

/-! The goals of the grammar and what its productions share. A production is written over a function
that pursues any goal, so that each can be read, and defined, on its own; they are tied together
where a whole program is parsed. -/
namespace Footprint.Script

open Syntax

inductive Goal where
  | statement
  | expression
  | assignment
  | operand (level : Nat)
  | unary
  | leftSide
  | bindingTarget
  | block
  | markupElement
  | type
  | plainType
  deriving DecidableEq, Repr

abbrev Pursuit := Goal → Step

def reservedWords : List String :=
  ["break", "case", "catch", "class", "const", "continue", "debugger", "default", "delete", "do",
    "else", "enum", "export", "extends", "false", "finally", "for", "function", "if", "import", "in",
    "instanceof", "new", "null", "return", "super", "switch", "this", "throw", "true", "try",
    "typeof", "var", "void", "while", "with"]

def Token.isName (t : Token) : Bool := t.kind == .word && !reservedWords.contains t.text

def Token.isMark (t : Token) (m : String) : Bool := t.kind == .mark && t.text == m

def Token.isWord (t : Token) (w : String) : Bool := t.kind == .word && t.text == w

def State.isName (s : State) : Bool := s.token.isName

def Token.startsKey (t : Token) : Bool :=
  t.kind == .word || t.kind == .string || t.kind == .number || t.kind == .privateName || t.isMark "["

namespace Step

open Syntax.Step

def name : Step := fun s => if s.isName then some (s.take .identifier true) else none

def propertyName : Step := fun s =>
  match s.token.kind with
  | .word => some (s.take .propertyIdentifier true)
  | .privateName => some (s.take .privateIdentifier true)
  | _ => none

/-- Whether the front of the text is an angle that closes, even as the beginning of a longer mark. -/
def atAngle (s : State) : Bool := s.token.start.head? == some '>'

def closeAngle : Step := fun s =>
  match s.token.start with
  | '>' :: rest => some ((s.put (.leaf .token false ">")).relex rest)
  | _ => none

def angleList (item : Step) : Step :=
  mark "<" >=> item >=>
    repeatUntil atAngle (mark "," >=> branch atAngle accept item) >=> closeAngle

def key (g : Pursuit) : Step := fun s =>
  match s.token.kind with
  | .word => some (s.take .propertyIdentifier true)
  | .privateName => some (s.take .privateIdentifier true)
  | .string => some (s.take .string true)
  | .number => some (s.take .number true)
  | _ => (mark "[" >=> free (g .assignment) >=> mark "]") s

end Step

/-- Gathers the trees above a mark, the first of them under a field. -/
def State.gatherFirst (s : State) (mark : Nat) (kind : Kind) (f : Field) : State :=
  match s.above mark with
  | [] => s.gather mark kind
  | (_, t) :: rest => s.replace mark (.node kind ((some f, t) :: rest))

end Footprint.Script
