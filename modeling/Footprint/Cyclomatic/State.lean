import Footprint.Cyclomatic.Layout
import Footprint.Cyclomatic.Outline
import Footprint.Syntax.Step

/-! The state of a parse of Python: the tokens to come, the decisions in the statement so far, and the
statements recognised. Of an expression only its shape is kept, which says whether it can be assigned
to. -/
namespace Footprint.Cyclomatic

inductive Shape where
  | name
  /-- An attribute or an element of a value. -/
  | place
  /-- Targets in a row, and whether one of them is starred. -/
  | sequence (starred : Bool)
  | starred
  /-- No target. -/
  | other
  deriving DecidableEq, Repr

namespace Shape

def isTarget : Shape → Bool
  | .other => false
  | _ => true

def isSingle : Shape → Bool
  | .name | .place => true
  | _ => false

def hasStar : Shape → Bool
  | .sequence star => star
  | .starred => true
  | _ => false

def join (a b : Shape) : Shape :=
  if a.isTarget && b.isTarget then .sequence (a.hasStar || b.hasStar) else .other

def star (a : Shape) : Shape := if a.isTarget then .starred else .other

end Shape

structure State where
  tokens : List Token
  /-- The decisions in the statement so far. -/
  decisions : Nat
  shape : Shape
  /-- The statements that are not yet part of a larger one, the latest first. -/
  outlines : List Outline
  /-- At least the length of the text; bounds every repetition. -/
  bound : Nat

abbrev Step := Syntax.Step State

inductive Goal where
  | expression
  | disjunction
  | inversion
  | factor
  | primary
  | pattern
  | statement
  deriving DecidableEq, Repr

abbrev Pursuit := Goal → Step

namespace State

def isMark (s : State) (m : String) : Bool :=
  match s.tokens with
  | .mark t :: _ => t == m
  | _ => false

def isAnyMark (s : State) (ms : List String) : Bool := ms.any s.isMark

def isKeyword (s : State) (w : String) : Bool :=
  match s.tokens with
  | .keyword t :: _ => t == w
  | _ => false

def isAnyKeyword (s : State) (ws : List String) : Bool := ws.any s.isKeyword

def isName (s : State) : Bool :=
  match s.tokens with
  | .name _ :: _ => true
  | _ => false

def isWord (s : State) (w : String) : Bool :=
  match s.tokens with
  | .name t :: _ => t == w
  | _ => false

def atNumber (s : State) : Bool :=
  match s.tokens with
  | .number _ :: _ => true
  | _ => false

def atString (s : State) : Bool :=
  match s.tokens with
  | .string _ :: _ => true
  | _ => false

def atLineEnd (s : State) : Bool :=
  match s.tokens with
  | .lineEnd :: _ => true
  | _ => false

def atDedent (s : State) : Bool :=
  match s.tokens with
  | .dedent :: _ => true
  | _ => false

def atEnd (s : State) : Bool := s.tokens.isEmpty

def next (s : State) : State := { s with tokens := s.tokens.drop 1 }

end State

namespace Step

open Syntax.Step

def skip : Step := fun s => if s.atEnd then none else some s.next

def only (test : State → Bool) : Step := branch test skip refuse

def mark (m : String) : Step := only (·.isMark m)

def keyword (w : String) : Step := only (·.isKeyword w)

def name : Step := only (·.isName)

def lineEnd : Step := only (·.atLineEnd)

def dedent : Step := only (·.atDedent)

def indent : Step := fun s =>
  match s.tokens with
  | .indent :: rest => some { s with tokens := rest }
  | _ => none

def optionalMark (m : String) : Step := whenever (·.isMark m) skip

def repeatUntil (stop : State → Bool) (step : Step) : Step := fun s => untilLoop stop step s.bound s

def repeatWhile (go : State → Bool) (step : Step) : Step := repeatUntil (fun s => !go s) step

/-- Items with commas between, at least one; a comma may follow the last. -/
def commas (close : State → Bool) (item : Step) : Step :=
  item >=> repeatWhile (·.isMark ",") (skip >=> whenever (fun s => !close s) item)

def reshape (f : Shape → Shape) : Step := fun s => some { s with shape := f s.shape }

def plain (step : Step) : Step := step >=> reshape fun _ => .other

def ensure (test : Shape → Bool) : Step := fun s => if test s.shape then some s else none

def count (n : Nat) : Step := fun s => some { s with decisions := s.decisions + n }

def decision : Step := skip >=> count 1

def uncounted (step : Step) : Step := fun s =>
  (step s).map fun t => { t with decisions := s.decisions }

/-- Parts with a separator in front of each but the first; with several of them there is no target. -/
def chain (atSeparator : State → Bool) (separator part : Step) : Step :=
  part >=> whenever atSeparator (plain (repeatWhile atSeparator (separator >=> part)))

def gather (make : Nat → List Outline → Outline) (step : Step) : Step := fun s =>
  (step { s with decisions := 0, outlines := [] }).map fun t =>
    { t with
      decisions := s.decisions
      outlines := make t.decisions t.outlines.reverse :: s.outlines }

end Step
end Footprint.Cyclomatic
