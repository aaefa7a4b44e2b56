import Footprint.Binary64.Arithmetic

/-! Shortest decimals: the fewest significant digits that still read back as the same double, and of
those the nearest to it. The choice is made in exact integer arithmetic on the interval of values
that round to the number. -/
namespace Footprint.Decimal

/-- `digits * 10 ^ exponent`, with no zero at the end of `digits` unless it is zero itself. -/
structure Digits where
  digits : Nat
  exponent : Int
  deriving DecidableEq, Repr

/-- The values that round to one finite magnitude, each scaled by `denominator`. The ends belong to
the interval exactly when the significand is even. -/
structure Interval where
  low : Nat
  value : Nat
  high : Nat
  denominator : Nat
  closed : Bool

/-- Half a unit of the last place on either side; below a power of two the neighbour is half as
far. -/
def Interval.around (significand power : Nat) : Interval where
  low := (4 * significand - if significand = 1 <<< 52 ∧ 0 < power then 1 else 2) <<< power
  value := (4 * significand) <<< power
  high := (4 * significand + 2) <<< power
  denominator := 4 * Binary64.unitsPerOne
  closed := significand % 2 == 0

def Interval.holds (i : Interval) (n d : Nat) : Bool :=
  let point := n * i.denominator
  if i.closed then i.low * d ≤ point && point ≤ i.high * d
  else i.low * d < point && point < i.high * d

def fraction (n : Nat) (e : Int) : Nat × Nat :=
  (n * Nat.pow 10 e.toNat, Nat.pow 10 (-e).toNat)

/-- The two points of the grid of multiples of `10 ^ e` next to the value, the nearer one first; a
value midway prefers the even multiple. -/
def gridPoints (i : Interval) (e : Int) : Nat × Nat :=
  let numerator := i.value * Nat.pow 10 (-e).toNat
  let denominator := i.denominator * Nat.pow 10 e.toNat
  let below := numerator / denominator
  let nearest := nearestEven numerator denominator
  (nearest, if nearest = below then below + 1 else below)

def onGrid? (i : Interval) (e : Int) : Option Nat :=
  let points := gridPoints i e
  let test (n : Nat) : Bool :=
    let (numerator, denominator) := fraction n e
    n != 0 && i.holds numerator denominator
  if test points.1 then some points.1 else if test points.2 then some points.2 else none

/-- An exponent `e` with `n / d < 10 ^ e`, and within a few places of the least such. -/
def ceilingExponent (n d : Nat) : Int :=
  ((n.log2 : Int) + 1 - d.log2) * 30103 / 100000 + 2

def Digits.trim : Digits → Nat → Digits
  | x, 0 => x
  | x, fuel + 1 =>
    if x.digits ≠ 0 ∧ x.digits % 10 = 0 then trim ⟨x.digits / 10, x.exponent + 1⟩ fuel else x

/-- Grids are tried from coarse to fine; the one of seventeen significant digits always has a hit. -/
def shortest (significand power : Nat) : Digits :=
  let i := Interval.around significand power
  let top := ceilingExponent i.value i.denominator
  let found := (List.range 22).findSome? fun (k : Nat) =>
    let e : Int := top - k
    (onGrid? i e).map fun n => Digits.mk n e
  (found.getD ⟨0, 0⟩).trim 20

example : shortest 7205759403792794 1018 = ⟨1, -1⟩ := by decide +kernel

example : shortest 1 0 = ⟨5, -324⟩ := by decide +kernel

end Footprint.Decimal
