import Footprint.Syntax.Tree

/-! Targets of an assignment, a loop or a parameter. What stands before `=`, `of` or `=>` has been read
as an expression; here it is turned into the pattern it must be, or refused. -/
namespace Footprint.Script

open Syntax

def isToken (text : String) : Tree → Bool
  | .leaf .token _ t => t == text
  | _ => false

def hasToken (text : String) (children : List (Option Field × Tree)) : Bool :=
  children.any fun c => isToken text c.2

mutual

/-- The pattern that an expression stands for. A binding introduces names, so that nothing but names
may be its leaves; any other target may also be a member or an element. -/
def toTarget? (binding : Bool) : Tree → Option Tree
  | .leaf kind named text => if kind = .identifier then some (.leaf kind named text) else none
  | .node kind children =>
    match kind with
    | .member | .subscript =>
      if binding || hasToken "?." children then none else some (.node kind children)
    | .nonNull | .typedExpression => if binding then none else some (.node kind children)
    | .parenthesized =>
      if binding then none
      else
        match children with
        | [_, inner, _] =>
          match toTarget? false inner.2 with
          | some (.node .arrayPattern _) | some (.node .objectPattern _) | none => none
          | some _ => some (.node .parenthesized children)
        | _ => none
    | .array | .arrayPattern => (toTargets? binding children).map (.node .arrayPattern)
    | .object | .objectPattern => (toTargets? binding children).map (.node .objectPattern)
    | .spread | .restPattern => (toTargets? binding children).map (.node .restPattern)
    | .pair => (toValueTargets? binding children).map (.node .pair)
    | .assignment =>
      if hasToken "=" children then
        (toFirstTarget? binding children).map (.node .assignmentPattern)
      else none
    | .assignmentPattern => (toFirstTarget? binding children).map (.node .assignmentPattern)
    | _ => none

def toTargets? (binding : Bool) : List (Option Field × Tree) → Option (List (Option Field × Tree))
  | [] => some []
  | (f, t) :: rest =>
    let converted :=
      match t with
      | .leaf .token .. => some t
      | t => toTarget? binding t
    match converted, toTargets? binding rest with
    | some t, some rest => some ((f, t) :: rest)
    | _, _ => none

def toValueTargets? (binding : Bool) :
    List (Option Field × Tree) → Option (List (Option Field × Tree))
  | [] => some []
  | (f, t) :: rest =>
    let converted := if f = some .value then toTarget? binding t else some t
    match converted, toValueTargets? binding rest with
    | some t, some rest => some ((f, t) :: rest)
    | _, _ => none

def toFirstTarget? (binding : Bool) :
    List (Option Field × Tree) → Option (List (Option Field × Tree))
  | [] => none
  | (f, t) :: rest => (toTarget? binding t).map fun t => (f, t) :: rest

end

/-- An object with a default for a shorthand member is a pattern; it is no value. -/
def isStrayPattern (t : Tree) : Bool :=
  t.kind == .object && t.children.any fun c => c.2.kind == .assignmentPattern

end Footprint.Script
