import Footprint.Script.Type

/-! Markup elements inside expressions. Their text is read by characters: it is free of tokens, and
white space and comment marks count as text. -/
namespace Footprint.Script

open Syntax Step

def markupTextSpan (taken : List Char) (text : List Char) : Span :=
  .takeWhile (fun c => !(c == '<' || c == '>' || c == '\x7b' || c == '\x7d')) taken text

def markupNamePart : Step := fun s =>
  if s.token.kind == .word then
    let span := Span.takeWhile (fun c => isNamePart c || c == '-') [] s.token.start
    some ((s.put (.leaf .identifier true span.text)).relex span.2)
  else none

/-- A name with the parts of its namespace or of the object that holds it. -/
def markupName : Step :=
  markupNamePart >=> repeatWhile (fun s => s.isMark ":" || s.isMark ".") (skip >=> markupNamePart)

def markupString : Step := fun s =>
  match s.token.start with
  | quote :: rest =>
    if quote = '"' ∨ quote = '\'' then
      let span := Span.takeWhile (· != quote) [quote] rest
      match span.2 with
      | _ :: rest =>
        some ((s.put (.leaf .string true (String.ofList (quote :: span.1).reverse))).relex rest)
      | [] => none
    else none
  | [] => none

/-- An expression in braces, without the closing one; it may be missing or spread. -/
def markupHole (g : Pursuit) : Step :=
  mark "\x7b" >=>
    free (whenever (fun s => !s.isMark "\x7d") (optionalMark "..." >=> g .expression))

/-- An element as the value of an attribute, up to and with its last angle. -/
def nestedElement (g : Pursuit) : Step := mark "<" >=> g .markupElement >=> closeAngle

def markupAttribute (g : Pursuit) : Step :=
  node .markupAttribute
    (branch (·.isMark "\x7b") (markupHole g >=> mark "\x7d")
      (markupName >=>
        whenever (·.isMark "=")
          (skip >=>
            branch (·.isMark "\x7b") (markupHole g >=> mark "\x7d")
              (branch (·.isMark "<") (nestedElement g) markupString))))

/-- What stands between the tags of an element, from its text on, up to the closing angle of the
closing tag. -/
def markupChildren (g : Pursuit) : Nat → List Char → Step
  | 0, _ => refuse
  | bound + 1, text => fun s =>
    let span := markupTextSpan [] text
    let s := if span.1.isEmpty then s else s.put (.leaf .markupText true span.text)
    match span.2 with
    | '\x7b' :: _ =>
      match node .markupExpression (markupHole g) (s.relex span.2) with
      | some s => if s.isMark "\x7d" then markupChildren g bound s.token.rest s else none
      | none => none
    | '<' :: rest =>
      let s := (s.put (.leaf .token false "<")).relex rest
      if s.isMark "/" then
        (skip >=> whenever (·.token.kind == .word) markupName >=>
          fun s => if atAngle s then some s else none) s
      else
        match g .markupElement s with
        | some s =>
          if atAngle s then
            markupChildren g bound (s.token.start.drop 1) (s.put (.leaf .token false ">"))
          else none
        | none => none
    | _ => none

/-- An element from behind its first angle up to its last, which is left to be taken. -/
def markupElement (g : Pursuit) : Step :=
  node .markupElement
    (whenever (fun s => !atAngle s)
        (markupName >=> whenever (fun s => s.dialect.types && s.isMark "<") (typeArguments g) >=>
          repeatUntil (fun s => atAngle s || s.isMark "/") (markupAttribute g)) >=>
      branch (·.isMark "/") (skip >=> fun s => if atAngle s then some s else none)
        fun s => markupChildren g s.bound (s.token.start.drop 1) (s.put (.leaf .token false ">")))

end Footprint.Script
