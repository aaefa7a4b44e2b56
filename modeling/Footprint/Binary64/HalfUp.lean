import Footprint.Binary64.Arithmetic

/-! Rounding to a number of decimal places with halves upwards: scale, add one half, take the exact
floor, scale back. The scaling is done on doubles, so that a value just below a half may be carried
over it by the addition. -/
namespace Footprint.Binary64

/-- `10 ^ digits` exactly for a non-negative count of places; below zero the scale is itself a
double. -/
def roundHalfUp (x : Binary64) (digits : Int) : Except ArithmeticError Binary64 :=
  match digits with
  | .ofNat places => do
    let scale : Nat := Nat.pow 10 places
    let factor ← ofInt? scale
    let floor ← floor? (x * factor + 0.5)
    ofRatio? floor scale
  | .negSucc below => do
    let scale := ofDecimal false 1 (.negSucc below)
    let floor ← floor? (x * scale + 0.5)
    let floor ← ofInt? floor
    if scale = zero false then .error .floatDivisionByZero else .ok (floor / scale)

def roundToInteger (x : Binary64) : Except ArithmeticError Int := do
  (← x.roundHalfUp 0).truncate?

example : (roundHalfUp 2.675 2).toOption = some 2.68 := by decide +kernel

example : (roundHalfUp 0.49999999999999994 0).toOption = some 1 := by decide +kernel

example : (roundHalfUp (-1.5) 0).toOption = some (-1) := by decide +kernel

end Footprint.Binary64
