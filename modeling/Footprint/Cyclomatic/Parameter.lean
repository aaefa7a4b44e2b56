import Footprint.Cyclomatic.State

/-! Parameters of functions. Those without a default stand before those with one, a slash ends those
given by position, and a star begins those given by name. -/
namespace Footprint.Cyclomatic

open Syntax.Step Step

inductive Before where
  | nothing
  | positional (defaults slash : Bool)
  /-- A star that stands alone needs a parameter behind it. -/
  | bareStar
  | star
  /-- The parameter for all other names is the last. -/
  | last
  deriving DecidableEq, Repr

namespace Before

/-- What came before the next parameter, behind one with or without a default. -/
def afterParameter (hasDefault : Bool) : Before → Option Before
  | nothing => some (positional hasDefault false)
  | positional defaults slash =>
    if defaults && !hasDefault then none else some (positional (defaults || hasDefault) slash)
  | bareStar | star => some star
  | last => none

def afterSlash : Before → Option Before
  | positional defaults false => some (positional defaults true)
  | _ => none

def admitsStar : Before → Bool
  | nothing | positional _ _ => true
  | _ => false

def admitsLast : Before → Bool
  | bareStar | last => false
  | _ => true

end Before

/-- How parameters are written: with types in a definition, without in an expression. -/
structure ParameterStyle where
  typed : Bool
  close : String

def ParameterStyle.definition : ParameterStyle := ⟨true, ")"⟩

def ParameterStyle.lambda : ParameterStyle := ⟨false, ":"⟩

def typeOf (style : ParameterStyle) (type : Step) : Step :=
  whenever (fun s => style.typed && s.isMark ":") (skip >=> type)

def starOrExpression (g : Pursuit) : Step := optionalMark "*" >=> g .expression

def parameter (g : Pursuit) (style : ParameterStyle) (before : Before) (s : State) :
    Option (Before × State) :=
  let typed := typeOf style (g .expression)
  if s.isMark "/" then (before.afterSlash).map (·, s.next)
  else if s.isMark "**" then
    if before.admitsLast then ((skip >=> name >=> typed) s).map (Before.last, ·) else none
  else if s.isMark "*" then
    if !before.admitsStar then none
    else if s.next.isName then
      ((skip >=> name >=> typeOf style (starOrExpression g)) s).map (Before.star, ·)
    else some (Before.bareStar, s.next)
  else do
    let t ← (name >=> typed) s
    if t.isMark "=" then
      let u ← (skip >=> g .expression) t
      (before.afterParameter true).map (·, u)
    else (before.afterParameter false).map (·, t)

def parametersFrom (g : Pursuit) (style : ParameterStyle) : (fuel : Nat) → Before → Step
  | 0, _ => refuse
  | fuel + 1, before => fun s =>
    if s.isMark style.close then (if before = .bareStar then none else some s)
    else
      match parameter g style before s with
      | none => none
      | some (after, t) =>
        if t.isMark "," then parametersFrom g style fuel after t.next
        else if t.isMark style.close ∧ after ≠ .bareStar then some t
        else none

def parameters (g : Pursuit) (style : ParameterStyle) : Step := fun s =>
  parametersFrom g style s.bound .nothing s

end Footprint.Cyclomatic
