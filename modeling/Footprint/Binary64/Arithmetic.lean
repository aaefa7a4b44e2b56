import Footprint.Binary64.Rounding

/-! Arithmetic on doubles: each operation is the exact result, correctly rounded once. The integers
that a double brackets (floor, ceiling, integral part) are exact and of any size, and asking them of
a number that is not finite is an error with a cause of its own. -/
namespace Footprint

inductive ArithmeticError where
  | infinityToInteger
  | nanToInteger
  | integerTooLarge
  | quotientTooLarge
  | divisionByZero
  | floatDivisionByZero
  deriving DecidableEq, Repr

def ArithmeticError.message : ArithmeticError → String
  | .infinityToInteger => "cannot convert float infinity to integer"
  | .nanToInteger => "cannot convert float NaN to integer"
  | .integerTooLarge => "int too large to convert to float"
  | .quotientTooLarge => "integer division result too large for a float"
  | .divisionByZero => "division by zero"
  | .floatDivisionByZero => "float division by zero"

namespace Binary64

/-- An exact sum of zero is positive unless both terms are negative. -/
def add : Binary64 → Binary64 → Binary64
  | .nan, _ => .nan
  | _, .nan => .nan
  | .infinite s, .infinite t => if s = t then .infinite s else .nan
  | .infinite s, .finite .. => .infinite s
  | .finite .., .infinite t => .infinite t
  | .finite s m p h, .finite t n q k =>
    let sum := (finite s m p h).units + (finite t n q k).units
    if sum = 0 then zero (s && t) else ofUnits (decide (sum < 0)) sum.natAbs 1

def mul : Binary64 → Binary64 → Binary64
  | .nan, _ => .nan
  | _, .nan => .nan
  | .infinite s, .infinite t => .infinite (s != t)
  | .infinite s, .finite t n _ _ => if n = 0 then .nan else .infinite (s != t)
  | .finite s m _ _, .infinite t => if m = 0 then .nan else .infinite (s != t)
  | .finite s m p _, .finite t n q _ =>
    ofUnits (s != t) ((m <<< p) * (n <<< q)) unitsPerOne

def div : Binary64 → Binary64 → Binary64
  | .nan, _ => .nan
  | _, .nan => .nan
  | .infinite _, .infinite _ => .nan
  | .infinite s, .finite t _ _ _ => .infinite (s != t)
  | .finite s _ _ _, .infinite t => zero (s != t)
  | .finite s m p _, .finite t n q _ =>
    if n = 0 then (if m = 0 then .nan else .infinite (s != t))
    else ofUnits (s != t) ((m <<< p) * unitsPerOne) (n <<< q)

instance : Add Binary64 := ⟨add⟩

instance : Mul Binary64 := ⟨mul⟩

instance : Div Binary64 := ⟨div⟩

instance : Sub Binary64 := ⟨fun x y => x + -y⟩

/-- Terms are added from the left, starting at zero. -/
def sum (terms : List Binary64) : Binary64 := terms.foldl (· + ·) 0

theorem sum_nil : sum [] = 0 := rfl

theorem sum_append_singleton (terms : List Binary64) (x : Binary64) :
    sum (terms ++ [x]) = sum terms + x := by
  simp [sum]

/-- A conversion that may not overflow: an infinite result is refused. -/
def refuseInfinite (e : ArithmeticError) : Binary64 → Except ArithmeticError Binary64
  | .infinite _ => .error e
  | x => .ok x

/-- An integer read as a double; one that rounds to infinity is refused. -/
def ofInt? (n : Int) : Except ArithmeticError Binary64 :=
  (ofInt n).refuseInfinite .integerTooLarge

def ofRatio? (numerator : Int) (denominator : Int) : Except ArithmeticError Binary64 :=
  if denominator = 0 then .error .divisionByZero
  else
    (ofUnits (decide (numerator < 0) != decide (denominator < 0))
      (numerator.natAbs * unitsPerOne) denominator.natAbs).refuseInfinite .quotientTooLarge

def units? : Binary64 → Except ArithmeticError Int
  | .nan => .error .nanToInteger
  | .infinite _ => .error .infinityToInteger
  | .finite s m p h => .ok (finite s m p h).units

def floor? (x : Binary64) : Except ArithmeticError Int :=
  x.units?.map (Int.fdiv · unitsPerOne)

def ceil? (x : Binary64) : Except ArithmeticError Int :=
  x.units?.map fun u => -Int.fdiv (-u) unitsPerOne

def truncate? (x : Binary64) : Except ArithmeticError Int :=
  x.units?.map (Int.tdiv · unitsPerOne)

example : (0.1 : Binary64) + 0.2 = 0.30000000000000004 := by decide +kernel

example : (0.2 : Binary64) + 0.2 + 0.2 ≠ 0.6 := by decide +kernel

example : (zero true) + 0 = 0 ∧ (zero true) * 1 = zero true := by decide +kernel

example : (2.5 : Binary64).floor?.toOption = some 2 ∧ (-2.5 : Binary64).floor?.toOption = some (-3) ∧
    (-2.5 : Binary64).ceil?.toOption = some (-2) ∧ (-2.5 : Binary64).truncate?.toOption = some (-2) := by
  decide +kernel

end Binary64
end Footprint
