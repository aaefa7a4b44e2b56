import Footprint.Failure
import Footprint.Json.Value

/-! Numbers in loosely typed values: what a JSON value stands for where a number or an integer is
expected. -/
namespace Footprint.Json

def kindName : Json → String
  | .null => "NoneType"
  | .bool _ => "bool"
  | .int _ => "int"
  | .float _ => "float"
  | .string _ => "str"
  | .array _ => "list"
  | .object _ => "dict"

/-- The integer that a value stands for: fractions are dropped, texts are read. -/
def toInteger : Json → Outcome Int
  | .int n => .ok n
  | .bool b => .ok (if b then 1 else 0)
  | .float x => Outcome.ofArithmetic x.truncate?
  | .string s =>
    match Decimal.readInteger s with
    | .ok n => .ok n
    | .error cause => .error (.integerText cause)
  | value => .error (.notIntegral value.kindName)

def orZero (x : Binary64) : Binary64 := if x.isFinite then x else 0

/-- The finite double that a value stands for: texts are read, and every value that is no number
counts as zero. -/
def toNumber : Json → Outcome Binary64
  | .int n => Outcome.ofArithmetic (Binary64.ofInt? n)
  | .float x => .ok (orZero x)
  | .string s => .ok (((Decimal.readDouble s).map orZero).getD 0)
  | _ => .ok 0

end Footprint.Json
