import Footprint.Cyclomatic.Parse
import Footprint.Failure

/-! A library that measures the cyclomatic complexity of Python, as the command line asks it: for the
complexities of all blocks of a source. A source that is no Python has none; beyond that a library may fail
in ways of its own, on sources that nest too deeply or take too much memory. -/
namespace Footprint.Cyclomatic

inductive Refusal where
  | notPython
  | failed (kind message : String)
  deriving DecidableEq, Repr

abbrev Library := String → Except Refusal (List Int)

namespace Library

/-- The greatest complexity in a source, none where it is no Python. Without a block it is zero. -/
def greatest? (library : Library) (source : String) : Outcome (Option Int) :=
  match library source with
  | .ok complexities => .ok (some (complexities.max?.getD 0))
  | .error .notPython => .ok none
  | .error (.failed kind message) => .error (.foreign kind message)

/-- The library that measures by the grammar of this project. It never fails. -/
def ofGrammar : Library := fun source =>
  match parse? source with
  | some outlines => .ok ((Outline.blocksAll outlines).map Int.ofNat)
  | none => .error .notPython

end Library
end Footprint.Cyclomatic
