import Footprint.Proofs.Binary64.Approximation

/-! Errors of rounding over the whole range. Near zero, a result is off by half a unit however small it is,
so that the error is counted in parts of a size that bounds the exact value and is not near zero itself.
The sizes multiply and divide as the values do, and each operation adds one part. -/
namespace Footprint.Binary64

theorem abs_roundedUnits_sub_le {n d : ℕ} (pos : 0 < d) :
    |(roundedUnits n d : ℚ) * d - n| ≤ n / 2 ^ 53 + d / 2 := by
  have numerator : (0 : ℚ) ≤ n := Nat.cast_nonneg n
  have denominator : (0 : ℚ) ≤ d := Nat.cast_nonneg d
  obtain lowest | high := Nat.eq_zero_or_pos (unitPower n d)
  · obtain ⟨above, below, -, -⟩ := nearestEven_spec n pos
    rw [roundedUnits, roundedSignificand, lowest, Nat.shiftLeft_zero, Nat.shiftLeft_zero]
    have left : (2 * n : ℚ) ≤ (2 * nearestEven n d + 1) * d := by exact_mod_cast above
    have right : (2 * nearestEven n d * d : ℚ) ≤ 2 * n + d := by exact_mod_cast below
    rw [abs_le]
    constructor <;> linarith
  · obtain ⟨above, below⟩ := roundedUnits_error pos high
    have left : (2 ^ 53 * n : ℚ) ≤ 2 ^ 53 * (roundedUnits n d * d) + n := by exact_mod_cast above
    have right : (2 ^ 53 * (roundedUnits n d * d) : ℚ) ≤ 2 ^ 53 * n + n := by exact_mod_cast below
    rw [abs_le]
    constructor <;> linarith

theorem abs_ratio_sub_le {m d one rounded : ℕ} {r : ℚ} (some : 0 < one) (pos : 0 < d)
    (exact : (m : ℚ) = r * (d * one)) (error : |(rounded : ℚ) * d - m| ≤ m / 2 ^ 53 + d / 2) :
    |(rounded : ℚ) / one - r| ≤ r / 2 ^ 53 + 1 / (2 * one) := by
  have unit : (0 : ℚ) < one := Nat.cast_pos.mpr some
  have divisor : (0 : ℚ) < d := Nat.cast_pos.mpr pos
  have scale : (0 : ℚ) < d * one := by positivity
  have whole : (rounded : ℚ) / one - r = (rounded * d - m) / (d * one) := by
    rw [exact]
    field_simp
  rw [whole, abs_div, abs_of_pos scale, div_le_iff₀ scale]
  refine error.trans_eq ?_
  rw [exact]
  field_simp

theorem abs_toRat_sub_le {z : Binary64} {n : Int} {d : ℕ} (finite : z.isFinite = true)
    (rank : z.rank = roundRatio n d) (nonneg : 0 ≤ n) (pos : 0 < d) {r : ℚ}
    (exact : (n : ℚ) = r * (d * unitsPerOne)) :
    0 ≤ z.toRat ∧ |z.toRat - r| ≤ r / 2 ^ 53 + 1 / (2 * unitsPerOne) := by
  have limit := (units_lt z).2
  obtain ⟨m, rfl⟩ := Int.eq_ofNat_of_zero_le nonneg
  rw [Int.cast_natCast] at exact
  rw [rank_of_isFinite finite, roundRatio, if_neg (by omega), cappedUnits, Int.natAbs_natCast] at rank
  have rounded : z.units = roundedUnits m d := by omega
  rw [toRat_nonneg_iff, rounded, toRat, rounded, Int.cast_natCast]
  exact ⟨Int.natCast_nonneg _, abs_ratio_sub_le unitsPerOne_pos pos exact (abs_roundedUnits_sub_le pos)⟩

theorem abs_mul_sub_mul_le {a b v w : ℚ} (second : 0 ≤ b) (first : 0 ≤ v) :
    |a * b - v * w| ≤ |a - v| * b + v * |b - w| := by
  calc
    |a * b - v * w| = |(a - v) * b + v * (b - w)| := by ring_nf
    _ ≤ |(a - v) * b| + |v * (b - w)| := abs_add_le _ _
    _ = |a - v| * b + v * |b - w| := by rw [abs_mul, abs_mul, abs_of_nonneg second, abs_of_nonneg first]

structure Deviates (x : Binary64) (v size : ℚ) (parts : ℕ) : Prop where
  isFinite : x.isFinite = true
  low : 0 ≤ x.toRat
  nonneg : 0 ≤ v
  le : v ≤ size
  error : |x.toRat - v| ≤ parts * size / 2 ^ 52

def Sizeable (size : ℚ) : Prop := 1 ≤ 2 ^ 100 * size

theorem Sizeable.div_le {size : ℚ} (h : Sizeable size) {one : ℕ} (many : 2 ^ 154 ≤ one) :
    1 / (2 * one) ≤ size / 2 ^ 55 := by
  have units : ((2 ^ 154 : ℕ) : ℚ) ≤ one := Nat.cast_le.mpr many
  push_cast at units
  rw [Sizeable] at h
  rw [div_le_div_iff₀ (by positivity) (by positivity)]
  nlinarith

namespace Deviates

variable {x y z : Binary64} {v w s t : ℚ} {k l : ℕ}

theorem of_rank {n : Int} {d : ℕ} {r : ℚ} (finite : z.isFinite = true) (rank : z.rank = roundRatio n d)
    (count : 0 ≤ n) (pos : 0 < d) (exact : (n : ℚ) = r * (d * unitsPerOne)) (nonneg : 0 ≤ v) (le : v ≤ s)
    (sizeable : Sizeable s) (few : k ≤ 2 ^ 49) (close : |r - v| ≤ (k + 1 / 4) * s / 2 ^ 52) :
    z.Deviates v s (k + 1) := by
  obtain ⟨low, rounding⟩ := abs_toRat_sub_le finite rank count pos exact
  refine ⟨finite, low, nonneg, le, ?_⟩
  have size : 0 ≤ s := nonneg.trans le
  have parts : (k : ℚ) ≤ 2 ^ 49 := by exact_mod_cast few
  have above : r ≤ v + (k + 1 / 4) * s / 2 ^ 52 := by linarith [(abs_le.mp close).2]
  have bounded : (k + 1 / 4) * s / 2 ^ 52 ≤ s / 4 := by
    rw [div_le_div_iff₀ (by positivity) (by positivity)]
    nlinarith
  calc
    |z.toRat - v| ≤ |z.toRat - r| + |r - v| := abs_sub_le _ _ _
    _ ≤ r / 2 ^ 53 + s / 2 ^ 55 + (k + 1 / 4) * s / 2 ^ 52 := by linarith [sizeable.div_le two_pow_le_unitsPerOne]
    _ ≤ (s + s / 4) / 2 ^ 53 + s / 2 ^ 55 + (k + 1 / 4) * s / 2 ^ 52 := by gcongr; linarith
    _ ≤ ((k + 1 : ℕ) : ℚ) * s / 2 ^ 52 := by
      push_cast
      linarith

theorem of_isFinite (finite : x.isFinite = true) (low : 0 ≤ x.toRat) : x.Deviates x.toRat x.toRat 0 where
  isFinite := finite
  low := low
  nonneg := low
  le := le_rfl
  error := by simp

theorem of_approximates (h : x.Approximates v k) (low : 0 ≤ x.toRat) : x.Deviates v v k where
  isFinite := h.isFinite
  low := low
  nonneg := h.nonneg
  le := le_rfl
  error := h.error

theorem mul {size : ℚ} (hx : x.Deviates v s k) (hy : y.Deviates w t l) (finite : (x * y).isFinite = true)
    (few : k ≤ 2 ^ 20 ∧ l ≤ 2 ^ 20) (bounds : s * t ≤ size) (sizeable : Sizeable size) :
    (x * y).Deviates (v * w) size (k + l + 1) := by
  obtain ⟨rank, -⟩ := rank_mul hx.isFinite hy.isFinite
  have left : (k : ℚ) ≤ 2 ^ 20 := by exact_mod_cast few.1
  have right : (l : ℚ) ≤ 2 ^ 20 := by exact_mod_cast few.2
  have hs : 0 ≤ s := hx.nonneg.trans hx.le
  have ht : 0 ≤ t := hy.nonneg.trans hy.le
  have product : 0 ≤ s * t := Left.mul_nonneg hs ht
  have count := Int.mul_nonneg (toRat_nonneg_iff.mp hx.low) (toRat_nonneg_iff.mp hy.low)
  refine of_rank (r := x.toRat * y.toRat) finite rank count unitsPerOne_pos ?_
    (Left.mul_nonneg hx.nonneg hy.nonneg) ((mul_le_mul hx.le hy.le hy.nonneg hs).trans bounds) sizeable
    (by omega) ?_
  · rw [Int.cast_mul, units_eq_toRat_mul, units_eq_toRat_mul]
    ring
  · have high : y.toRat ≤ t + l * t / 2 ^ 52 := by linarith [(abs_le.mp hy.error).2, hy.le]
    have cross : (k * s / 2 ^ 52) * (l * t / 2 ^ 52) ≤ s * t / 4 / 2 ^ 52 := by
      have most : (k : ℚ) * l ≤ 2 ^ 40 := by
        calc
          (k : ℚ) * l ≤ 2 ^ 20 * 2 ^ 20 := mul_le_mul left right (Nat.cast_nonneg _) (by positivity)
          _ = 2 ^ 40 := by norm_num
      calc
        (k * s / 2 ^ 52) * (l * t / 2 ^ 52) = k * l * (s * t) / 2 ^ 52 / 2 ^ 52 := by ring
        _ ≤ 2 ^ 40 * (s * t) / 2 ^ 52 / 2 ^ 52 := by gcongr
        _ ≤ s * t / 4 / 2 ^ 52 := by
          gcongr ?_ / _
          linarith
    calc
      |x.toRat * y.toRat - v * w| ≤ |x.toRat - v| * y.toRat + v * |y.toRat - w| :=
        abs_mul_sub_mul_le hy.low hx.nonneg
      _ ≤ k * s / 2 ^ 52 * (t + l * t / 2 ^ 52) + s * (l * t / 2 ^ 52) := by
        have first := mul_le_mul hx.error high hy.low (by positivity)
        have second := mul_le_mul hx.le hy.error (abs_nonneg _) hs
        linarith
      _ ≤ (k + l) * (s * t) / 2 ^ 52 + s * t / 4 / 2 ^ 52 := by linarith
      _ = (k + l + 1 / 4) * (s * t) / 2 ^ 52 := by ring
      _ ≤ ((k + l : ℕ) + 1 / 4) * size / 2 ^ 52 := by
        push_cast
        gcongr

theorem mono (h : x.Deviates v s k) (le : k ≤ l) : x.Deviates v s l where
  isFinite := h.isFinite
  low := h.low
  nonneg := h.nonneg
  le := h.le
  error := by
    have parts : (k : ℚ) ≤ l := Nat.cast_le.mpr le
    have size : 0 ≤ s := h.nonneg.trans h.le
    refine h.error.trans ?_
    gcongr

theorem add (hx : x.Deviates v s k) (hy : y.Deviates w t k) (finite : (x + y).isFinite = true)
    (few : k ≤ 2 ^ 49) (sizeable : Sizeable (s + t)) : (x + y).Deviates (v + w) (s + t) (k + 1) := by
  obtain ⟨rank, -⟩ := rank_add hx.isFinite hy.isFinite
  have count := Int.add_nonneg (toRat_nonneg_iff.mp hx.low) (toRat_nonneg_iff.mp hy.low)
  have low := hx.nonneg
  have low' := hy.nonneg
  have size := hx.le
  have size' := hy.le
  refine of_rank (r := x.toRat + y.toRat) finite rank count Nat.one_pos ?_ (by linarith) (by linarith)
    sizeable few ?_
  · rw [Int.cast_add, units_eq_toRat_mul, units_eq_toRat_mul]
    push_cast
    ring
  · calc
      |x.toRat + y.toRat - (v + w)| = |(x.toRat - v) + (y.toRat - w)| := by ring_nf
      _ ≤ |x.toRat - v| + |y.toRat - w| := abs_add_le _ _
      _ ≤ k * s / 2 ^ 52 + k * t / 2 ^ 52 := by linarith [hx.error, hy.error]
      _ ≤ (k + 1 / 4) * (s + t) / 2 ^ 52 := by linarith

theorem div (hx : x.Deviates v s k) (hy : y.isFinite = true) (pos : 0 < y.units)
    (finite : (x / y).isFinite = true) (few : k ≤ 2 ^ 49) (sizeable : Sizeable (s / y.toRat)) :
    (x / y).Deviates (v / y.toRat) (s / y.toRat) (k + 1) := by
  obtain ⟨rank, -⟩ := rank_div hx.isFinite hy pos
  have units : (0 : ℚ) < y.units := Int.cast_pos.mpr pos
  have divisor : 0 < y.toRat := div_pos units (Nat.cast_pos.mpr unitsPerOne_pos)
  have whole : ((y.units.natAbs : ℕ) : ℚ) = y.toRat * unitsPerOne := by
    rw [← units_eq_toRat_mul, Nat.cast_natAbs, abs_of_pos pos]
  have count := Int.mul_nonneg (toRat_nonneg_iff.mp hx.low) (Int.natCast_nonneg unitsPerOne)
  have quotient : 0 ≤ v / y.toRat := by
    have nonneg := hx.nonneg
    positivity
  refine of_rank (r := x.toRat / y.toRat) finite rank count (by omega) ?_ quotient
    (div_le_div_of_nonneg_right hx.le divisor.le) sizeable few ?_
  · rw [Int.cast_mul, units_eq_toRat_mul, whole, Int.cast_natCast, mul_assoc y.toRat,
      ← mul_assoc (x.toRat / y.toRat), div_mul_cancel₀ _ divisor.ne']
    ring
  · have size : 0 ≤ s := hx.nonneg.trans hx.le
    calc
      |x.toRat / y.toRat - v / y.toRat| = |x.toRat - v| / y.toRat := by
        rw [← sub_div, abs_div, abs_of_pos divisor]
      _ ≤ k * s / 2 ^ 52 / y.toRat := div_le_div_of_nonneg_right hx.error divisor.le
      _ = k * (s / y.toRat) / 2 ^ 52 := by ring
      _ ≤ (k + 1 / 4) * (s / y.toRat) / 2 ^ 52 := by
        gcongr
        linarith

end Deviates

theorem deviates_ofInt {n : Int} (count : 0 ≤ n) (finite : (ofInt n).isFinite = true) :
    (ofInt n).Deviates n n 1 := by
  obtain rfl | some := count.eq_or_lt
  · have zero := approximates_ofRatio (n := 0) Nat.one_pos (by norm_num) (by norm_num)
    have value : ((0 : ℕ) : ℚ) / (1 : ℕ) = (0 : Int) := by norm_num
    rw [value] at zero
    exact .of_approximates zero (toRat_nonneg (by decide +kernel) zero.isFinite)
  · have whole : (1 : ℚ) ≤ n := by exact_mod_cast some
    have low := Int.mul_nonneg count (Int.natCast_nonneg unitsPerOne)
    refine .of_rank (k := 0) (r := n) finite (rank_ofInt n).1 low Nat.one_pos ?_ (by linarith) le_rfl ?_
      (by omega) ?_
    · rw [Int.cast_mul, Int.cast_natCast, Nat.cast_one, one_mul]
    · rw [Sizeable]
      linarith
    · rw [sub_self, abs_zero]
      positivity

/-! ### Rounding to an integer -/

/-- What is rounded to an integer was scaled and cut down, and the integer comes back out of a double. -/
theorem exists_of_roundToInteger {x : Binary64} {n : Int} (rounded : x.roundToInteger = .ok n) :
    (decimalFactor 0).isFinite = true ∧
      ∃ floor, (x.scaledUp 0).floor? = .ok floor ∧ (ofInt floor).truncate? = .ok n := by
  obtain ⟨a, halfUp, truncated⟩ := exists_of_bind_eq_ok rounded
  have parts : _ ∧ _ ∧ ∃ floor, (x.scaledUp 0).floor? = .ok floor ∧ ofInt floor = a :=
    roundHalfUp_eq_ok_iff.mp halfUp
  obtain ⟨factor, -, floor, floorOk, rfl⟩ := parts
  exact ⟨factor, floor, floorOk, truncated⟩

theorem isFinite_of_roundToInteger {x : Binary64} {n : Int} (rounded : x.roundToInteger = .ok n) :
    x.isFinite = true := by
  obtain ⟨factor, floor, floorOk, -⟩ := exists_of_roundToInteger rounded
  exact isFinite_of_mul factor (decimalFactor_pos factor) (isFinite_of_add (floor?_eq_ok_iff.mp floorOk).1)

/-- What is made a double and cut again is off by two parts at most, and not at all where counts are exact. -/
theorem abs_truncate?_ofInt_sub_le {m n : Int} (count : 0 ≤ m) (h : (ofInt m).truncate? = .ok n) :
    |(n : ℚ) - m| ≤ 2 * m / 2 ^ 52 := by
  have finite := (truncate?_eq_ok_iff.mp h).1
  have near := deviates_ofInt count finite
  rw [truncate?_of_nonneg finite near.low] at h
  obtain rfl := Except.ok.inj h
  have size : (0 : ℚ) ≤ m := Int.cast_nonneg count
  obtain small | large := lt_or_ge m (2 ^ 53)
  · obtain ⟨k, rfl⟩ := Int.eq_ofNat_of_zero_le count
    have exact := toRat_natCast (n := k) (by exact_mod_cast small)
    rw [natCast_eq_ofInt] at exact
    rw [exact, Int.floor_natCast, sub_self, abs_zero]
    positivity
  · have many : (2 : ℚ) ^ 53 ≤ m := by exact_mod_cast large
    have below := Int.floor_le (ofInt m).toRat
    have above := Int.lt_floor_add_one (ofInt m).toRat
    obtain ⟨left, right⟩ := abs_le.mp near.error
    push_cast at left right
    rw [abs_le]
    constructor <;> linarith

theorem Deviates.scaledUp_zero {x : Binary64} {v : ℚ} {k : ℕ} (h : x.Deviates v v k) (few : k ≤ 2 ^ 10)
    (finite : (x.scaledUp 0).isFinite = true) : (x.scaledUp 0).Deviates (v + 1 / 2) (v + 1) (k + 2) := by
  have nonneg := h.nonneg
  obtain ⟨factorFinite, factor⟩ : (decimalFactor 0).isFinite = true ∧ (decimalFactor 0).toRat = 1 := by
    have spec : _ ∧ (decimalFactor 0).toRat = decimalScale 0 := decimalFactor_spec (by decide)
    exact ⟨spec.1, spec.2.trans (by norm_num [decimalScale])⟩
  have unit := Deviates.of_isFinite factorFinite (by rw [factor]; norm_num)
  rw [factor] at unit
  have scaled := h.mul unit (isFinite_of_add finite) ⟨by omega, by omega⟩ (by linarith : v * 1 ≤ v + 1 / 2)
    (by rw [Sizeable]; linarith)
  have half := Deviates.of_approximates .half (toRat_nonneg half_spec.nonneg half_units.1)
  have sum : (x.scaledUp 0).Deviates (v * 1 + 1 / 2) (v + 1 / 2 + 1 / 2) (k + 2) :=
    scaled.add (half.mono (Nat.zero_le _)) finite (by omega) (by rw [Sizeable]; linarith)
  have size : v + 1 / 2 + 1 / 2 = v + 1 := by ring
  rwa [mul_one, size] at sum

theorem Deviates.abs_roundToInteger_sub_le {x : Binary64} {v : ℚ} {k : ℕ} {n : Int} (h : x.Deviates v v k)
    (few : k ≤ 2 ^ 10) (rounded : x.roundToInteger = .ok n) :
    |(n : ℚ) - v| ≤ 1 / 2 + (k + 5) * (v + 1) / 2 ^ 52 := by
  obtain ⟨-, floor, floorOk, truncated⟩ := exists_of_roundToInteger rounded
  obtain ⟨finite, floorEq⟩ := floor?_eq_ok_iff_toRat.mp floorOk
  have nonneg := h.nonneg
  have sum := h.scaledUp_zero few finite
  have floorLow : 0 ≤ floor := floorEq ▸ Int.floor_nonneg.mpr sum.low
  have below := Int.floor_le (x.scaledUp 0).toRat
  have above := Int.lt_floor_add_one (x.scaledUp 0).toRat
  rw [floorEq] at below above
  obtain ⟨left, right⟩ := abs_le.mp sum.error
  obtain ⟨low, high⟩ := abs_le.mp (abs_truncate?_ofInt_sub_le floorLow truncated)
  have parts : (k : ℚ) ≤ 2 ^ 10 := by exact_mod_cast few
  push_cast at left right
  have small : (k + 2) * (v + 1) / 2 ^ 52 ≤ (v + 1) / 2 := by
    calc (k + 2) * (v + 1) / 2 ^ 52 ≤ 2 ^ 51 * (v + 1) / 2 ^ 52 := by
          gcongr
          linarith
      _ = (v + 1) / 2 := by ring
  -- The conversion of the floor costs two parts more.
  have split : (k + 5) * (v + 1) / 2 ^ 52 = (k + 2) * (v + 1) / 2 ^ 52 + 3 * (v + 1) / 2 ^ 52 := by ring
  rw [split, abs_le]
  constructor <;> linarith

end Footprint.Binary64
