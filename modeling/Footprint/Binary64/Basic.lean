/-! IEEE 754 double-precision numbers, held by significand and exponent rather than as a bit
pattern, so that the exact value of a finite number is one integer: a count of units of `2 ^ -1074`.
Comparison is by exact value, and a number that is not one compares with nothing. -/
namespace Footprint

/-- The finite magnitudes: `significand * 2 ^ power` units, each magnitude in exactly one way. -/
structure Canonical (significand power : Nat) : Prop where
  significand_lt : significand < 1 <<< 53
  normal : 1 <<< 52 ≤ significand ∨ power = 0
  power_le : power ≤ 2045

instance (significand power : Nat) : Decidable (Canonical significand power) :=
  decidable_of_iff
    (significand < 1 <<< 53 ∧ (1 <<< 52 ≤ significand ∨ power = 0) ∧ power ≤ 2045)
    ⟨fun ⟨a, b, c⟩ => ⟨a, b, c⟩, fun ⟨a, b, c⟩ => ⟨a, b, c⟩⟩

inductive Binary64 where
  | nan
  | infinite (negative : Bool)
  | finite (negative : Bool) (significand power : Nat) (canonical : Canonical significand power)
  deriving DecidableEq

namespace Binary64

abbrev unitsPerOne : Nat := 1 <<< 1074

def zero (negative : Bool) : Binary64 :=
  .finite negative 0 0 ⟨by decide, .inr rfl, by decide⟩

instance : Inhabited Binary64 := ⟨zero false⟩

def isFinite : Binary64 → Bool
  | .finite .. => true
  | _ => false

def isNegative : Binary64 → Bool
  | .nan => false
  | .infinite negative => negative
  | .finite negative .. => negative

def magnitude : Binary64 → Nat
  | .finite _ significand power _ => significand <<< power
  | _ => 0

def units (x : Binary64) : Int :=
  if x.isNegative then -(x.magnitude : Int) else x.magnitude

theorem magnitude_zero (negative : Bool) : (zero negative).magnitude = 0 := by
  simp [zero, magnitude]

theorem units_zero (negative : Bool) : (zero negative).units = 0 := by
  simp [units, magnitude_zero]

theorem units_natAbs (x : Binary64) : x.units.natAbs = x.magnitude := by
  unfold units
  split <;> simp

/-- Strictly below, by value; false as soon as one side is not a number. -/
def below : Binary64 → Binary64 → Bool
  | .nan, _ => false
  | _, .nan => false
  | .infinite s, .infinite t => s && !t
  | .infinite s, .finite .. => s
  | .finite .., .infinite t => !t
  | .finite s m p h, .finite t n q k => decide ((finite s m p h).units < (finite t n q k).units)

/-- Below or equal, by value; the two zeros are equal. -/
def atMost : Binary64 → Binary64 → Bool
  | .nan, _ => false
  | _, .nan => false
  | .infinite s, .infinite t => s || !t
  | .infinite s, .finite .. => s
  | .finite .., .infinite t => !t
  | .finite s m p h, .finite t n q k => decide ((finite s m p h).units ≤ (finite t n q k).units)

instance : LT Binary64 := ⟨fun x y => x.below y = true⟩

instance : LE Binary64 := ⟨fun x y => x.atMost y = true⟩

instance (x y : Binary64) : Decidable (x < y) := inferInstanceAs (Decidable (x.below y = true))

instance (x y : Binary64) : Decidable (x ≤ y) := inferInstanceAs (Decidable (x.atMost y = true))

theorem lt_def (x y : Binary64) : x < y ↔ x.below y = true := Iff.rfl

theorem le_def (x y : Binary64) : x ≤ y ↔ x.atMost y = true := Iff.rfl

theorem not_lt_nan (x : Binary64) : ¬ x < nan := by
  cases x <;> simp [lt_def, below]

theorem not_nan_lt (x : Binary64) : ¬ nan < x := by
  simp [lt_def, below]

/-- The first argument unless the second is strictly above it. -/
def max (x y : Binary64) : Binary64 := if x < y then y else x

/-- The first argument unless the second is strictly below it. -/
def min (x y : Binary64) : Binary64 := if y < x then y else x

theorem max_nan (x : Binary64) : x.max nan = x := by simp [max, not_lt_nan]

def neg : Binary64 → Binary64
  | .nan => .nan
  | .infinite s => .infinite !s
  | .finite s m p h => .finite (!s) m p h

instance : Neg Binary64 := ⟨neg⟩

end Binary64
end Footprint
