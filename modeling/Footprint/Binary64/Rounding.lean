import Footprint.Binary64.Basic

/-! Correct rounding: the double nearest an exact fraction, a tie to the even significand. Every
number that enters the library from a text, an integer or an operation passes through `ofUnits`. -/
namespace Footprint

/-- The integer nearest `numerator / denominator`, a tie to the even one. -/
def nearestEven (numerator denominator : Nat) : Nat :=
  let quotient := numerator / denominator
  let remainder := numerator % denominator
  if 2 * remainder < denominator then quotient
  else if denominator < 2 * remainder then quotient + 1
  else quotient + quotient % 2

theorem nearestEven_mul (n d : Nat) (pos : 0 < d) : nearestEven (n * d) d = n := by
  simp [nearestEven, Nat.mul_div_cancel _ pos, pos]

namespace Binary64

/-- The double nearest `numerator / denominator` units, with the given sign. The unit of the last
place is the least one under which the significand stays below `2 ^ 53`; a significand that is
rounded up to `2 ^ 53` moves to the next unit, and past the last unit the result is infinite. -/
def ofUnits (negative : Bool) (numerator denominator : Nat) : Binary64 :=
  let power := (numerator / denominator).log2 - 52
  let significand := nearestEven numerator (denominator <<< power)
  if fits : Canonical significand power then .finite negative significand power fits
  else if fits : Canonical (significand / 2) (power + 1) then
    .finite negative (significand / 2) (power + 1) fits
  else .infinite negative

def ofRatio (numerator : Int) (denominator : Nat) : Binary64 :=
  ofUnits (decide (numerator < 0)) (numerator.natAbs * unitsPerOne) denominator

/-- The double nearest an integer; infinite when the integer is out of range. -/
def ofInt (n : Int) : Binary64 := ofRatio n 1

/-- The double nearest `digits * 10 ^ exponent`. Exponents far outside the range are settled by size
alone, so that no large power is computed. -/
def ofDecimal (negative : Bool) (digits : Nat) (exponent : Int) : Binary64 :=
  match exponent with
  | .ofNat e =>
    if digits = 0 then zero negative
    else if 400 < e then .infinite negative
    else ofUnits negative (digits * Nat.pow 10 e * unitsPerOne) 1
  | .negSucc e =>
    if digits.log2 + 1100 < e then zero negative
    else ofUnits negative (digits * unitsPerOne) (Nat.pow 10 (e + 1))

instance : NatCast Binary64 := ⟨fun n => ofInt n⟩

instance (n : Nat) : OfNat Binary64 n := ⟨ofInt n⟩

instance : OfScientific Binary64 :=
  ⟨fun digits belowOne e => ofDecimal false digits (if belowOne then -(e : Int) else e)⟩

example : (1 : Binary64) = .finite false (1 <<< 52) 1022 (by decide) := by decide +kernel

example : (0.1 : Binary64) = .finite false 7205759403792794 1018 (by decide) := by decide +kernel

example : ofDecimal false 1 400 = .infinite false := by decide +kernel

example : ofDecimal false 5 (-324) = .finite false 1 0 (by decide) := by decide +kernel

end Binary64
end Footprint
