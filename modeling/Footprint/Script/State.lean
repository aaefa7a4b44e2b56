import Footprint.Script.Token
import Footprint.Syntax.Step
import Footprint.Syntax.Tree

/-! The state of a parse and its steps. A step takes the token in front or refuses; what it recognises
is left on a pile of trees, and a production gathers those that were put there since it began. -/
namespace Footprint.Script

open Syntax

structure Dialect where
  types : Bool
  markup : Bool
  deriving DecidableEq, Repr

def Dialect.javaScript : Dialect := ⟨false, true⟩

def Dialect.typeScript : Dialect := ⟨true, false⟩

def Dialect.typeScriptMarkup : Dialect := ⟨true, true⟩

structure Limits where
  /-- `in` ends the expression: the head of a loop. -/
  noIn : Bool
  /-- A colon after parameters ends the expression: between `?` and `:`. -/
  noReturnType : Bool

structure State where
  dialect : Dialect
  limits : Limits
  token : Token
  /-- The trees recognised so far and not yet gathered, the latest first. -/
  pile : List (Option Field × Tree)
  height : Nat
  /-- At least the length of the text; bounds every repetition. -/
  bound : Nat

abbrev Step := Syntax.Step State

namespace State

def relex (s : State) (text : List Char) : State :=
  { s with token := nextToken (!s.dialect.types) false text }

def put (s : State) (t : Tree) : State :=
  { s with pile := (none, t) :: s.pile, height := s.height + 1 }

def take (s : State) (kind : Kind) (named : Bool) : State :=
  (s.put (.leaf kind named s.token.text)).relex s.token.rest

/-- Takes the first `count` trees off a pile; they come out in the order they were put there. -/
def split : Nat → List (Option Field × Tree) → List (Option Field × Tree) →
    List (Option Field × Tree) × List (Option Field × Tree)
  | 0, gathered, pile => (gathered, pile)
  | _ + 1, gathered, [] => (gathered, [])
  | count + 1, gathered, t :: pile => split count (t :: gathered) pile

def above (s : State) (mark : Nat) : List (Option Field × Tree) :=
  (split (s.height - mark) [] s.pile).1

def replace (s : State) (mark : Nat) (t : Tree) : State :=
  let (_, rest) := split (s.height - mark) [] s.pile
  { s with pile := (none, t) :: rest, height := mark + 1 }

def gather (s : State) (mark : Nat) (kind : Kind) : State :=
  s.replace mark (.node kind (s.above mark))

def label (s : State) (f : Field) : State :=
  match s.pile with
  | (_, t) :: rest => { s with pile := (some f, t) :: rest }
  | [] => s

def top? (s : State) : Option Tree := s.pile.head?.map Prod.snd

def setTop (s : State) (t : Tree) : State :=
  match s.pile with
  | (f, _) :: rest => { s with pile := (f, t) :: rest }
  | [] => s

def isMark (s : State) (m : String) : Bool := s.token.kind == .mark && s.token.text == m

def isWord (s : State) (w : String) : Bool := s.token.kind == .word && s.token.text == w

def isAnyMark (s : State) (ms : List String) : Bool :=
  s.token.kind == .mark && ms.contains s.token.text

def peek (s : State) : Token := nextToken (!s.dialect.types) false s.token.rest

def atEnd (s : State) : Bool := s.token.kind == .ending

end State

namespace Step

open Syntax.Step

def skip : Step := fun s => some (s.take .token false)

def mark (m : String) : Step := fun s => if s.isMark m then some (s.take .token false) else none

def word (w : String) : Step := fun s => if s.isWord w then some (s.take .token false) else none

def leaf (kind : Kind) : Step := fun s => some (s.take kind true)

def optionalMark (m : String) : Step := whenever (·.isMark m) skip

def node (kind : Kind) (step : Step) : Step := fun s => (step s).map (·.gather s.height kind)

def as (f : Field) (step : Step) : Step := fun s => (step s).map (·.label f)

def under (limits : Limits → Limits) (step : Step) : Step := fun s =>
  (step { s with limits := limits s.limits }).map fun t => { t with limits := s.limits }

def free (step : Step) : Step := under (fun _ => ⟨false, false⟩) step

def repeatUntil (stop : State → Bool) (step : Step) : Step := fun s =>
  untilLoop stop step s.bound s

def repeatWhile (go : State → Bool) (step : Step) : Step := repeatUntil (fun s => !go s) step

/-- Items with a comma after each but the last, up to a closing mark; the last may have one too. -/
def commaList (close : String) (item : Step) : Step :=
  repeatUntil (·.isMark close)
    (item >=> branch (·.isMark close) accept (mark ","))

def commas (item : Step) : Step := item >=> repeatWhile (·.isMark ",") (skip >=> item)

/-- Ends a statement: a semicolon, or the end of a line, block or text. -/
def semicolon : Step := fun s =>
  if s.isMark ";" then some (s.take .token false)
  else if s.isMark "\x7d" || s.atEnd || s.token.afterLineEnd then some s
  else none

end Step
end Footprint.Script
