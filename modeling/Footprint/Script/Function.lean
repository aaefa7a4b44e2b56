import Footprint.Script.Pattern

/-! Functions, methods and classes. -/
namespace Footprint.Script

open Syntax Step

def functionParts (g : Pursuit) : Step :=
  optionalTypeParameters g >=> parameters g >=> returnAscription g >=> as .body (g .block)

/-- Parameters and the type returned, with a body or without one where types are declared. -/
def methodParts (g : Pursuit) : Step :=
  optionalTypeParameters g >=> parameters g >=> returnAscription g >=>
    branch (fun s => s.dialect.types && !s.isMark "\x7b") semicolon (as .body (g .block))

def State.atAsyncFunction (s : State) : Bool :=
  s.isWord "async" && s.peek.isWord "function" && !s.peek.afterLineEnd

def functionHead : Step := whenever (·.isWord "async") skip >=> word "function" >=> optionalMark "*"

def functionExpression (g : Pursuit) : Step :=
  node .functionExpression
    (functionHead >=> whenever (·.isName) (as .name name) >=> functionParts g)

/-- A declaration of a function by name. Without a body it is a signature. -/
def functionDeclaration (g : Pursuit) : Step := fun s =>
  match (functionHead >=> as .name name >=> methodParts g) s with
  | none => none
  | some t =>
    let parts := t.above s.height
    let hasBody := parts.any fun c => c.1 == some .body
    let kind : Kind :=
      if !hasBody then .functionSignature
      else if hasToken "*" parts then .generatorFunctionDeclaration
      else .functionDeclaration
    some (t.gather s.height kind)

def typedModifiers : List String :=
  ["public", "private", "protected", "readonly", "abstract", "override", "declare"]

def methodWords : List String := ["async", "get", "set"]

/-- Whether one of some words is in front and modifies the member behind it, rather than naming one. -/
def State.atModifier (s : State) (words : List String) : Bool :=
  let next := s.peek
  s.token.kind == .word && words.contains s.token.text &&
    (next.startsKey || (next.isMark "*" && !(s.isWord "get" || s.isWord "set"))) &&
    (!next.afterLineEnd || s.isWord "static" || s.isWord "get" || s.isWord "set")

def memberModifiers : Step := fun s =>
  if s.dialect.types then
    repeatWhile (·.atModifier ("static" :: "accessor" :: typedModifiers)) skip s
  else (whenever (·.atModifier ["static"]) skip >=> whenever (·.atModifier ["accessor"]) skip) s

def fieldParts (g : Pursuit) : Step :=
  optionalAscription g >=>
    whenever (·.isMark "=") (skip >=> free (g .assignment)) >=>
    semicolon

def staticBlock (g : Pursuit) : Step := node .staticBlock (word "static" >=> g .block)

def indexSignature (g : Pursuit) : Step :=
  indexKey g >=> optionalAscription g >=> semicolon

/-- The key of a member; where types are declared a mark may say more of it. -/
def memberKey (g : Pursuit) : Step :=
  key g >=> whenever (fun s => s.dialect.types && (s.isMark "?" || s.isMark "!")) skip

def specialMethod (g : Pursuit) : Step :=
  whenever (·.atModifier methodWords) skip >=> optionalMark "*" >=> memberKey g >=> methodParts g

def classMember (g : Pursuit) : Step := fun s =>
  if s.isMark ";" then skip s
  else if s.isWord "static" && s.peek.isMark "\x7b" then staticBlock g s
  else
    match (decorators g >=> memberModifiers) s with
    | none => none
    | some t =>
      if t.dialect.types && t.atIndex [] then (indexSignature g t).map (·.gather s.height .field)
      else if t.isMark "*" || t.atModifier methodWords then
        (specialMethod g t).map (·.gather s.height .method)
      else
        match memberKey g t with
        | none => none
        | some t =>
          if t.isMark "(" || (t.dialect.types && t.isMark "<") then
            (methodParts g t).map (·.gather s.height .method)
          else (fieldParts g t).map (·.gather s.height .field)

def classBody (g : Pursuit) : Step :=
  node .classBody
    (mark "\x7b" >=> free (repeatUntil (·.isMark "\x7d") (classMember g)) >=> mark "\x7d")

def heritage (g : Pursuit) : Step :=
  whenever (·.isWord "extends")
      (skip >=> g .leftSide >=>
        whenever (fun s => s.dialect.types && s.isMark "<") (typeArguments g)) >=>
    whenever (fun s => s.dialect.types && s.isWord "implements") (skip >=> commas (g .type))

def classParts (g : Pursuit) : Step :=
  whenever (fun s => s.dialect.types && s.isWord "abstract") skip >=> word "class" >=>
    whenever (fun s => s.isName && !(s.dialect.types && s.isWord "implements")) (as .name name) >=>
    optionalTypeParameters g >=> heritage g >=> classBody g

def classExpression (g : Pursuit) : Step := node .classExpression (decorators g >=> classParts g)

end Footprint.Script
