import Footprint.Proofs.Binary64.Arithmetic

/-! Signs: that of a product or a quotient is set where its operands differ in sign, also for zeros and
infinities. Only what is not a number has no sign to speak of. -/
namespace Footprint.Binary64

@[simp] theorem isNegative_nan : nan.isNegative = false := rfl

@[simp] theorem isNegative_infinite (negative : Bool) : (infinite negative).isNegative = negative := rfl

@[simp] theorem isNegative_finite (negative : Bool) (n p : Nat) (h : Canonical n p) :
    (finite negative n p h).isNegative = negative := rfl

@[simp] theorem isNegative_zero (negative : Bool) : (zero negative).isNegative = negative := rfl

@[simp] theorem isNegative_ofUnits (negative : Bool) (n d : Nat) :
    (ofUnits negative n d).isNegative = negative := by
  unfold ofUnits
  dsimp only
  split
  · simp
  · split <;> simp

@[simp] theorem isNegative_ofInt (n : Int) : (ofInt n).isNegative = decide (n < 0) := by
  simp [ofInt, ofRatio]

theorem isNegative_mul {x y : Binary64} (h : x * y ≠ nan) :
    (x * y).isNegative = (x.isNegative != y.isNegative) := by
  change mul x y ≠ nan at h
  change (mul x y).isNegative = _
  cases x with
  | nan => exact absurd rfl h
  | infinite s =>
    cases y with
    | nan => exact absurd rfl h
    | infinite t => rfl
    | finite t n q k => by_cases zero : n = 0 <;> simp_all [mul]
  | finite s m p k =>
    cases y with
    | nan => exact absurd rfl h
    | infinite t => by_cases zero : m = 0 <;> simp_all [mul]
    | finite t n q l => simp [mul]

theorem isNegative_div {x y : Binary64} (h : x / y ≠ nan) :
    (x / y).isNegative = (x.isNegative != y.isNegative) := by
  change div x y ≠ nan at h
  change (div x y).isNegative = _
  cases x with
  | nan => exact absurd rfl h
  | infinite s =>
    cases y with
    | nan | infinite => exact absurd rfl h
    | finite => rfl
  | finite s m p k =>
    cases y with
    | nan => exact absurd rfl h
    | infinite => rfl
    | finite t n q l =>
      by_cases divisor : n = 0
      · by_cases dividend : m = 0 <;> simp_all [div]
      · simp [div, divisor]

end Footprint.Binary64
