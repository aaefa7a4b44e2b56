import Footprint.Proofs.Binary64.Approximation
import Footprint.Proofs.Binary64.Places
import Footprint.Proofs.Binary64.Within

/-! Rounding to the nearest integer. The half that is added may carry a number over the integer it is nearest
to, since the sum is rounded before its floor is taken. Where a double lies between the exact sum and the next
integer, the rounded sum stays below that integer. There is one unless the number is the greatest one below a
half, or steps of one begin, where every other sum is midway between two integers and goes to the even one. -/
namespace Footprint.Binary64

/-! ### Counts of halves -/

theorem two_pow_mul_quarterUnits (k : Nat) : (2 ^ k * quarterUnits : Int) = 2 ^ (k + 1072) := by
  unfold quarterUnits
  generalize 1072 = e
  rw [pow_add]
  norm_cast

theorem half_eq_two_pow : (2 * quarterUnits : Int) = 2 ^ (1 + 1072) := two_pow_mul_quarterUnits 1

theorem one_eq_two_pow : (4 * quarterUnits : Int) = 2 ^ (2 + 1072) := two_pow_mul_quarterUnits 2

theorem representable_halves {n : Int} (few : |n| ≤ 2 ^ 53) : Representable (n * (2 * quarterUnits)) := by
  rw [half_eq_two_pow]
  exact .of_abs_le few (by omega)

theorem representable_ones {n : Int} (few : |n| ≤ 2 ^ 53) : Representable (n * (4 * quarterUnits)) := by
  rw [one_eq_two_pow]
  exact .of_abs_le few (by omega)

theorem two_pow_dvd_quarterUnits {p : Nat} (fine : p ≤ 1072) : (2 ^ p : Int) ∣ quarterUnits := by
  have whole := two_pow_mul_quarterUnits 0
  rw [pow_zero, one_mul, Nat.zero_add] at whole
  rw [whole]
  exact pow_dvd_pow 2 fine

/-! ### Sums below the next integer -/

structure Reaches (u n : Int) : Prop where
  low : n * (4 * quarterUnits) ≤ u + 2 * quarterUnits
  high : u + 2 * quarterUnits < (n + 1) * (4 * quarterUnits)

def Separated (u n : Int) : Prop :=
  ∃ y, Representable y ∧ u + 2 * quarterUnits ≤ y ∧ y < (n + 1) * (4 * quarterUnits)

def belowHalfUnits : Int := 2 * quarterUnits - 2 ^ 1020

theorem reaches_iff {u n : Int} :
    Reaches u n ↔ (u + 2 * quarterUnits) / (4 * quarterUnits) = n := by
  have pos := quarterUnits_pos
  rw [Int.ediv_eq_iff_of_pos (by omega)]
  exact ⟨fun ⟨low, high⟩ => ⟨low, by linarith⟩, fun ⟨low, high⟩ => ⟨low, by linarith⟩⟩

namespace Reaches

variable {u n : Int} {p : Nat}

theorem bounds (h : Reaches u n) {k : Int} (few : |u| < (4 * k - 2) * quarterUnits) : -k ≤ n ∧ n ≤ k := by
  have pos := quarterUnits_pos
  obtain ⟨low, high⟩ := h
  obtain ⟨left, right⟩ := abs_lt.mp few
  have most : n < k := by
    refine lt_of_mul_lt_mul_right (a := (4 * quarterUnits : Int)) ?_ (by omega)
    linarith
  have least : -k < n + 1 := by
    refine lt_of_mul_lt_mul_right (a := (4 * quarterUnits : Int)) ?_ (by omega)
    linarith
  omega

theorem ediv_roundRatio (h : Reaches u n) (few : |u| < 2 ^ 53 * (2 * quarterUnits)) (gap : Separated u n) :
    roundRatio (u + 2 * quarterUnits) 1 / (4 * quarterUnits) = n := by
  have pos := quarterUnits_pos
  have bounds := h.bounds (k := 2 ^ 52 + 1) (by linarith)
  obtain ⟨y, above, le, lt⟩ := gap
  have count : |n| ≤ 2 ^ 53 := by
    rw [abs_le]
    omega
  have low := (representable_ones count).le_roundRatio Nat.one_pos (by simpa using h.low)
  have high := above.roundRatio_le Nat.one_pos (by simpa using le)
  rw [Int.ediv_eq_iff_of_pos (by omega)]
  exact ⟨low, by linarith⟩

theorem separated_of_le (h : Reaches u n) (few : |u| < 2 ^ 53 * quarterUnits)
    (le : u ≤ n * (4 * quarterUnits)) : Separated u n := by
  have pos := quarterUnits_pos
  have bounds := h.bounds (k := 2 ^ 51 + 1) (by linarith)
  have halves : n * (4 * quarterUnits) + 2 * quarterUnits = (2 * n + 1) * (2 * quarterUnits) := by ring
  have count : |2 * n + 1| ≤ 2 ^ 53 := by
    rw [abs_le]
    omega
  exact ⟨_, representable_halves count, by linarith, by linarith⟩

/-- The sum is as many last places as the number, so one of them is left up to the next integer. -/
theorem le_sub_two_pow (h : Reaches u n) (fine : p ≤ 1072) (dvd : (2 ^ p : Int) ∣ u) :
    u + 2 * quarterUnits ≤ (n + 1) * (4 * quarterUnits) - 2 ^ p := by
  have quarters := two_pow_dvd_quarterUnits fine
  have gap : (2 ^ p : Int) ∣ (n + 1) * (4 * quarterUnits) - (u + 2 * quarterUnits) :=
    dvd_sub (dvd_mul_of_dvd_right (quarters.mul_left 4) _) (dvd.add (quarters.mul_left 2))
  have := Int.le_of_dvd (by linarith [h.high]) gap
  omega

theorem separated_of_few (h : Reaches u n) (fine : p ≤ 1072) (dvd : (2 ^ p : Int) ∣ u)
    (few : |(n + 1) * (4 * quarterUnits) - 2 ^ p| ≤ 2 ^ 53 * 2 ^ p) : Separated u n := by
  have unit : (0 : Int) < 2 ^ p := by positivity
  refine ⟨_, .of_dvd (e := p) ?_ few (by omega), h.le_sub_two_pow fine dvd, by linarith⟩
  exact dvd_sub (dvd_mul_of_dvd_right ((two_pow_dvd_quarterUnits fine).mul_left 4) _) dvd_rfl

theorem separated_of_neg (h : Reaches u n) (fine : p ≤ 1072) (places : Places u p) (neg : n < 0) :
    Separated u n := by
  have pos := quarterUnits_pos
  have unit : (0 : Int) < 2 ^ p := by positivity
  have gap := h.le_sub_two_pow fine places.dvd
  have next : (n + 1) * (4 * quarterUnits) ≤ 0 := mul_nonpos_of_nonpos_of_nonneg (by omega) (by omega)
  obtain ⟨left, right⟩ := abs_lt.mp places.few
  refine h.separated_of_few fine places.dvd ?_
  rw [abs_le]
  constructor <;> linarith

theorem separated_of_pos (h : Reaches u n) (fine : p ≤ 1072) (places : Places u p) (some : 0 < n)
    (lt : n * (4 * quarterUnits) < u) : Separated u n := by
  have pos := quarterUnits_pos
  have unit : (0 : Int) < 2 ^ p := by positivity
  have below : n * (4 * quarterUnits) < 2 ^ 53 * 2 ^ p := lt.trans (abs_lt.mp places.few).2
  have least : (4 * quarterUnits : Int) ≤ n * (4 * quarterUnits) := le_mul_of_one_le_left (by omega) some
  have place : 2 + 1072 ≤ 53 + p := by
    have powers := lt_of_le_of_lt least below
    rw [one_eq_two_pow, ← pow_add] at powers
    exact ((pow_lt_pow_iff_right₀ (by norm_num)).mp powers).le
  -- The power of two that ends the last places is an integer itself, so the next one is not beyond it.
  obtain ⟨k, split⟩ := Nat.exists_eq_add_of_le place
  have next : (n + 1) * (4 * quarterUnits) ≤ 2 ^ 53 * 2 ^ p := by
    rw [← pow_add, split, pow_add, ← one_eq_two_pow, mul_comm _ (2 ^ k : Int)] at below ⊢
    have count := lt_of_mul_lt_mul_right below (by omega)
    exact Int.mul_le_mul_of_nonneg_right count (by omega)
  have wide : (2 ^ p : Int) ≤ quarterUnits := Int.le_of_dvd pos (two_pow_dvd_quarterUnits fine)
  refine h.separated_of_few fine places.dvd ?_
  rw [abs_le]
  constructor <;> linarith

theorem separated_of_lt_half (h : Reaches u 0) (places : Places u p) (some : 0 < u)
    (other : u ≠ belowHalfUnits) : Separated u 0 := by
  have half : u < 2 * quarterUnits := by linarith [h.high]
  have size : |u| = u := abs_of_pos some
  have few := size ▸ places.few
  unfold belowHalfUnits at other
  generalize place : 1020 = e at other
  have last : (2 ^ 52 * 2 ^ e : Int) = quarterUnits := by
    have whole := two_pow_mul_quarterUnits 0
    rw [pow_zero, one_mul] at whole
    rw [whole, ← pow_add, ← place]
  have step : (2 ^ (e + 1) : Int) = 2 * 2 ^ e := pow_succ' 2 e
  have unit : (0 : Int) < 2 ^ e := by positivity
  -- From a half to one, doubles are two of these last places apart.
  have below : u ≤ 2 * quarterUnits - 2 * 2 ^ e := by
    obtain less | rfl | more := Nat.lt_trichotomy p e
    · have finer : (2 * 2 ^ p : Int) ≤ 2 ^ e := by
        rw [← pow_succ']
        exact pow_le_pow_right₀ (by norm_num) less
      linarith
    · obtain ⟨k, rest⟩ : (2 ^ p : Int) ∣ 2 * quarterUnits - u :=
        dvd_sub ((two_pow_dvd_quarterUnits (by omega)).mul_left 2) places.dvd
      have least : 0 < k := pos_of_mul_pos_right (by linarith) unit.le
      have more : k ≠ 1 := by
        rintro rfl
        exact other (by linarith)
      have two : (2 ^ p : Int) * 2 ≤ 2 ^ p * k := Int.mul_le_mul_of_nonneg_left (by omega) unit.le
      linarith
    · have coarser : (2 ^ (e + 1) : Int) ≤ 2 ^ p := pow_le_pow_right₀ (by norm_num) more
      have normal := size ▸ places.normal.resolve_right (by omega)
      linarith
  have top : (2 ^ 53 - 1 : Int) * 2 ^ (e + 1) = 4 * quarterUnits - 2 * 2 ^ e := by linarith
  exact ⟨_, .of_abs_le (k := 2 ^ 53 - 1) (e := e + 1) (by norm_num) (by omega), by linarith, by linarith⟩

theorem separated_of_halves (h : Reaches u n) (places : Places u (1 + 1072)) : Separated u n := by
  obtain ⟨k, rfl, few, -⟩ := places.exists_eq
  rw [← half_eq_two_pow] at h ⊢
  have sum : k * (2 * quarterUnits) + 2 * quarterUnits = (k + 1) * (2 * quarterUnits) := by ring
  have count : |k + 1| ≤ 2 ^ 53 := by
    rw [abs_le]
    obtain ⟨left, right⟩ := abs_lt.mp few
    omega
  exact ⟨_, representable_halves count, sum.le, sum ▸ h.high⟩

theorem separated (h : Reaches u n) (places : Places u p) (fine : p ≤ 1 + 1072)
    (other : u ≠ belowHalfUnits) : Separated u n := by
  obtain finer | rfl := Nat.lt_or_eq_of_le fine
  · have finer : p ≤ 1072 := by omega
    have wide : (2 ^ p : Int) ≤ quarterUnits :=
      Int.le_of_dvd quarterUnits_pos (two_pow_dvd_quarterUnits finer)
    by_cases le : u ≤ n * (4 * quarterUnits)
    · exact h.separated_of_le (by linarith [places.few]) le
    · obtain neg | rfl | some := Int.lt_trichotomy n 0
      · exact h.separated_of_neg finer places neg
      · exact h.separated_of_lt_half places (by linarith) other
      · exact h.separated_of_pos finer places some (by linarith)
  · exact h.separated_of_halves places

end Reaches

/-! ### Sums of integers -/

theorem ediv_roundRatio_of_ones {k : Int} (least : 2 ^ 52 ≤ |k|) (most : |k| < 2 ^ 53) :
    roundRatio (k * (4 * quarterUnits) + 2 * quarterUnits) 1 / (4 * quarterUnits) = k + k % 2 := by
  have pos := quarterUnits_pos
  have sum : k * (4 * quarterUnits) + 2 * quarterUnits = (2 * k + 1) * (2 * quarterUnits) := by ring
  by_cases lowest : k = -2 ^ 52
  · -- Above the negative power of two there still are halves.
    have count : |2 * k + 1| ≤ 2 ^ 53 := by
      rw [lowest]
      norm_num
    have even : k % 2 = 0 := by omega
    rw [sum, (representable_halves count).roundRatio_eq, even, Int.ediv_eq_iff_of_pos (by linarith)]
    constructor <;> linarith
  · have size : |(2 * k + 1) * (2 * quarterUnits)| = |2 * k + 1| * (2 * quarterUnits) := by
      rw [abs_mul, abs_of_pos (by linarith : (0 : Int) < 2 * quarterUnits)]
    have count : 2 ^ 53 ≤ |2 * k + 1| ∧ |2 * k + 1| < 2 ^ 54 := by
      cases abs_cases k <;> cases abs_cases (2 * k + 1) <;> omega
    have low := Int.mul_le_mul_of_nonneg_right count.1 (by linarith : (0 : Int) ≤ 2 * quarterUnits)
    have high := Int.mul_lt_mul_of_pos_right count.2 (by linarith : (0 : Int) < 2 * quarterUnits)
    have target : Representable ((k + k % 2) * (4 * quarterUnits)) := by
      refine representable_ones ?_
      cases abs_cases k <;> cases abs_cases (k + k % 2) <;> omega
    have step : |1 - 2 * (k % 2)| = 1 := by
      obtain even | odd := Int.emod_two_eq_zero_or_one k
      · rw [even]
        norm_num
      · rw [odd]
        norm_num
    have tie : |2 * ((2 * k + 1) * (2 * quarterUnits)) - 2 * (k + k % 2) * (4 * quarterUnits)| =
        4 * quarterUnits := by
      have distance : 2 * ((2 * k + 1) * (2 * quarterUnits)) - 2 * (k + k % 2) * (4 * quarterUnits) =
          (1 - 2 * (k % 2)) * (4 * quarterUnits) := by ring
      rw [distance, abs_mul, step, one_mul, abs_of_pos (by linarith)]
    have rounded : roundRatio ((2 * k + 1) * (2 * quarterUnits)) 1 = (k + k % 2) * (4 * quarterUnits) := by
      rw [one_eq_two_pow] at target tie ⊢
      refine roundRatio_eq_mul (.inr ?_) ?_ target tie.le fun _ => by omega
      · rw [size, ← one_eq_two_pow]
        linarith
      · rw [size, ← one_eq_two_pow]
        linarith
    rw [sum, rounded, Int.mul_ediv_cancel _ (by linarith)]

theorem roundRatio_of_coarse {u : Int} {p : Nat} (places : Places u p) (coarse : 2 + 1072 < p) :
    roundRatio (u + 2 * quarterUnits) 1 = u := by
  have pos := quarterUnits_pos
  have wide : (2 * (4 * quarterUnits) : Int) ≤ 2 ^ p := by
    rw [one_eq_two_pow, ← pow_succ']
    exact pow_le_pow_right₀ (by norm_num) coarse
  have unit : (0 : Int) < 2 ^ p := by positivity
  have target := places.representable
  obtain ⟨k, rfl, few, normal⟩ := places.exists_eq
  have least := normal.resolve_right (by omega)
  by_cases lowest : k = -2 ^ 52
  · -- Above the negative power of two, the last place is half as long.
    obtain ⟨r, rfl⟩ : ∃ r, p = r + 1 := ⟨p - 1, by omega⟩
    have half : (2 ^ (r + 1) : Int) = 2 * 2 ^ r := pow_succ' 2 r
    have double : k * 2 ^ (r + 1) = 2 * k * 2 ^ r := by
      rw [half]
      ring
    rw [double] at target ⊢
    have distance : |2 * (2 * k * 2 ^ r + 2 * quarterUnits) - 2 * (2 * k) * 2 ^ r| ≤ 2 ^ r := by
      rw [abs_of_pos] <;> linarith
    refine roundRatio_eq_mul (.inr ?_) ?_ target distance fun _ => by omega
    · rw [le_abs, lowest]
      right
      linarith
    · rw [abs_lt, lowest]
      constructor <;> linarith
  · have distance : |2 * (k * 2 ^ p + 2 * quarterUnits) - 2 * k * 2 ^ p| < 2 ^ p := by
      rw [abs_of_pos] <;> linarith
    have sides : 2 ^ 52 ≤ k ∨ k ≤ -2 ^ 52 - 1 := by
      cases abs_cases k <;> omega
    obtain ⟨left, right⟩ := abs_lt.mp few
    have above : (k + 1) * 2 ^ p ≤ 2 ^ 53 * 2 ^ p := Int.mul_le_mul_of_nonneg_right right unit.le
    have below : (-2 ^ 53) * 2 ^ p < k * 2 ^ p := Int.mul_lt_mul_of_pos_right left unit
    refine roundRatio_eq_mul (.inr ?_) ?_ target distance.le fun tie => absurd tie distance.ne
    · rw [le_abs]
      obtain large | small := sides
      · left
        have := Int.mul_le_mul_of_nonneg_right large unit.le
        linarith
      · right
        have := Int.mul_le_mul_of_nonneg_right small unit.le
        linarith
    · rw [abs_lt]
      constructor <;> linarith

/-! ### The number scaled up -/

section

variable {x y : Binary64} {k n : Int} {places : Nat}

theorem toRat_eq_intCast_iff : x.toRat = k ↔ x.units = k * (4 * quarterUnits) := by
  rw [toRat, div_eq_iff unitsPerOne_ne_zero, ← unitsPerOne_cast, ← Int.cast_natCast, ← Int.cast_mul,
    Int.cast_inj]

theorem round_toRat : round x.toRat = (x.units + 2 * quarterUnits) / (4 * quarterUnits) := by
  have some : (quarterUnits : ℚ) ≠ 0 := by exact_mod_cast quarterUnits_pos.ne'
  have sum : x.toRat + 1 / 2 = ((x.units + 2 * quarterUnits : Int) : ℚ) / (4 * quarterUnits : Nat) := by
    rw [toRat, unitsPerOne_eq_quarters]
    push_cast
    field_simp
    ring
  rw [round_eq, sum, Rat.floor_intCast_div_natCast, Nat.cast_mul, Nat.cast_ofNat]

theorem round_toRat_of_whole (value : x.toRat = k) : round x.toRat = k := by
  rw [value, round_intCast]

theorem rank_scaledUp (finite : x.isFinite = true) (scale : decimalScale places < 2 ^ 53)
    (exact : Representable (x.units * decimalScale places)) :
    (x * decimalFactor places).isFinite = true ∧
      (x * decimalFactor places).units = x.units * decimalScale places ∧
      (x.scaledUp places).rank = roundRatio (x.units * decimalScale places + 2 * quarterUnits) 1 ∧
      x.scaledUp places ≠ nan := by
  obtain ⟨factor, factorUnits⟩ := units_natCast scale
  rw [natCast_eq_ofInt] at factor factorUnits
  obtain ⟨rank, number⟩ := rank_mul finite factor
  rw [factorUnits, ← mul_assoc, exact.roundRatio_mul unitsPerOne_pos] at rank
  have product : (x * decimalFactor places).isFinite = true ∧ _ := exact.units_eq number rank
  have sum := rank_add product.1 half_units.1
  rw [product.2, half_units.2] at sum
  exact ⟨product.1, product.2, sum⟩

theorem scaledUp_zero_spec (finite : x.isFinite = true) :
    (x.scaledUp 0).isFinite = true ∧
      (x.scaledUp 0).units = roundRatio (x.units + 2 * quarterUnits) 1 := by
  have once : x.units * decimalScale 0 = x.units := by rw [decimalScale, pow_zero, Nat.cast_one, mul_one]
  have exact := representable_units finite
  have small : decimalScale 0 < 2 ^ 53 := by decide
  have spec := rank_scaledUp finite small (by rwa [once])
  rw [once] at spec
  obtain ⟨product, units, rank, number⟩ := spec
  have below : x * decimalFactor 0 ≤ x.scaledUp 0 := by
    rw [le_iff_rank (ne_nan_of_isFinite product) number, rank, rank_of_isFinite product, units]
    exact exact.le_roundRatio Nat.one_pos (by omega)
  have top : (largest + 0.5).isFinite = true := by decide +kernel
  have above : x.scaledUp 0 ≤ largest + 0.5 :=
    add_le_add (le_largest product) (le_refl' (ne_nan_of_isFinite half_units.1)) number
      (ne_nan_of_isFinite top)
  have sum := isFinite_of_le_of_le product top below above
  exact ⟨sum, (rank_of_isFinite sum).symm.trans rank⟩

theorem floor?_eq_ediv (finite : y.isFinite = true) : y.floor? = .ok (y.units / (4 * quarterUnits)) := by
  refine floor?_eq_ok_iff.mpr ⟨finite, ?_⟩
  rw [Int.fdiv_eq_ediv_of_nonneg _ (Int.natCast_nonneg _), unitsPerOne_cast]

theorem floor?_scaledUp_zero (finite : x.isFinite = true) :
    (x.scaledUp 0).floor? = .ok (roundRatio (x.units + 2 * quarterUnits) 1 / (4 * quarterUnits)) := by
  obtain ⟨sum, units⟩ := scaledUp_zero_spec finite
  rw [floor?_eq_ediv sum, units]

theorem floor?_scaledUp_of_whole (finite : x.isFinite = true) (value : x.toRat = k)
    (scale : decimalScale places < 2 ^ 53) (few : |k * decimalScale places| < 2 ^ 52) :
    (x.scaledUp places).floor? = .ok (k * decimalScale places) := by
  have pos := quarterUnits_pos
  have product : x.units * decimalScale places = k * decimalScale places * (4 * quarterUnits) := by
    rw [toRat_eq_intCast_iff.mp value]
    ring
  have spec := rank_scaledUp finite scale (product ▸ representable_ones (by linarith))
  rw [product] at spec
  generalize k * (decimalScale places : Int) = count at *
  have sum : count * (4 * quarterUnits) + 2 * quarterUnits = (2 * count + 1) * (2 * quarterUnits) := by ring
  have halves : |2 * count + 1| ≤ 2 ^ 53 := by
    obtain ⟨left, right⟩ := abs_lt.mp few
    rw [abs_le]
    omega
  have exact := representable_halves halves
  obtain ⟨-, -, rank, number⟩ := spec
  rw [sum, exact.roundRatio_eq] at rank
  obtain ⟨finite, units⟩ := exact.units_eq number rank
  rw [floor?_eq_ediv finite, units]
  congr 1
  rw [Int.ediv_eq_iff_of_pos (by omega)]
  constructor <;> linarith

end

/-! ### Numbers that are carried over -/

/-- The numbers that the half carries over the integer they are nearest to: the greatest one below a half, and
the odd integers in steps of one. -/
inductive CarriedOver (x : Binary64) : Prop
  | belowHalf (value : x = 0.49999999999999994)
  | odd (k : Int) (value : x.toRat = k) (odd : k % 2 = 1) (above : 2 ^ 52 < |k|) (below : |k| < 2 ^ 53)

theorem belowHalf_spec : (0.49999999999999994 : Binary64).isFinite = true ∧
    (0.49999999999999994 : Binary64).units = belowHalfUnits := by
  have counted : (0.49999999999999994 : Binary64).isFinite = true ∧
      2 * (0.49999999999999994 : Binary64).units + 2 * 2 ^ 1020 = unitsPerOne := by
    decide +kernel
  obtain ⟨finite, units⟩ := counted
  rw [unitsPerOne_cast] at units
  unfold belowHalfUnits
  generalize (2 ^ 1020 : Int) = last at units ⊢
  exact ⟨finite, by linarith⟩

theorem round_belowHalf : round (0.49999999999999994 : Binary64).toRat = 0 := by
  have last : (2 ^ 1020 : Int) ≤ quarterUnits :=
    Int.le_of_dvd quarterUnits_pos (two_pow_dvd_quarterUnits (by omega))
  have unit : (0 : Int) < 2 ^ 1020 := by positivity
  rw [round_toRat, belowHalf_spec.2, belowHalfUnits]
  generalize (2 ^ 1020 : Int) = t at last unit ⊢
  exact Int.ediv_eq_zero_of_lt (by omega) (by omega)

section

variable {x : Binary64} {p : Nat}

theorem eq_belowHalf (finite : x.isFinite = true) (units : x.units = belowHalfUnits) :
    x = 0.49999999999999994 := by
  obtain ⟨half, value⟩ := belowHalf_spec
  refine eq_of_rank_eq (ne_nan_of_isFinite finite) half ?_ (by rw [rank_of_isFinite finite, units, value])
  decide +kernel

theorem floor?_of_fine (finite : x.isFinite = true) (places : Places x.units p) (fine : p ≤ 1 + 1072)
    (other : x.units ≠ belowHalfUnits) : (x.scaledUp 0).floor? = .ok (round x.toRat) := by
  have wide : (2 ^ p : Int) ≤ 2 * quarterUnits := by
    rw [half_eq_two_pow]
    exact pow_le_pow_right₀ (by norm_num) fine
  have reaches := reaches_iff.mpr (round_toRat (x := x)).symm
  rw [floor?_scaledUp_zero finite,
    reaches.ediv_roundRatio (by linarith [places.few]) (reaches.separated places fine other)]

theorem floor?_of_ones {k : Int} (finite : x.isFinite = true) (value : x.toRat = k) (least : 2 ^ 52 ≤ |k|)
    (most : |k| < 2 ^ 53) : (x.scaledUp 0).floor? = .ok (round x.toRat + k % 2) := by
  rw [floor?_scaledUp_zero finite, toRat_eq_intCast_iff.mp value, ediv_roundRatio_of_ones least most,
    round_toRat_of_whole value]

theorem floor?_of_coarse (finite : x.isFinite = true) (places : Places x.units p) (coarse : 2 + 1072 < p) :
    (x.scaledUp 0).floor? = .ok (round x.toRat) := by
  have pos := quarterUnits_pos
  obtain ⟨k, units⟩ : (4 * quarterUnits : Int) ∣ x.units := by
    rw [one_eq_two_pow]
    exact (pow_dvd_pow 2 coarse.le).trans places.dvd
  rw [mul_comm] at units
  rw [floor?_scaledUp_zero finite, roundRatio_of_coarse places coarse,
    round_toRat_of_whole (toRat_eq_intCast_iff.mpr units), units, Int.mul_ediv_cancel _ (by omega)]

theorem floor?_of_not_carriedOver (finite : x.isFinite = true) (h : ¬ CarriedOver x) :
    (x.scaledUp 0).floor? = .ok (round x.toRat) := by
  obtain ⟨p, places⟩ := exists_places finite
  obtain fine | rfl | coarse := Nat.lt_trichotomy p (2 + 1072)
  · exact floor?_of_fine finite places (by omega) fun units => h (.belowHalf (eq_belowHalf finite units))
  · obtain ⟨k, units, most, normal⟩ := places.exists_eq
    have least := normal.resolve_right (by omega)
    rw [← one_eq_two_pow] at units
    have value := toRat_eq_intCast_iff.mpr units
    have even : k % 2 = 0 := by
      by_contra odd
      refine h (.odd k value (by omega) (lt_of_le_of_ne least fun same => odd ?_) most)
      cases abs_cases k <;> omega
    rw [floor?_of_ones finite value least most, even, add_zero]
  · exact floor?_of_coarse finite places coarse

theorem floor?_of_carriedOver (finite : x.isFinite = true) (h : CarriedOver x) :
    (x.scaledUp 0).floor? = .ok (round x.toRat + 1) := by
  cases h with
  | belowHalf value =>
    have sum : ((0.49999999999999994 : Binary64).scaledUp 0).floor? = .ok 1 := by decide +kernel
    rw [value, round_belowHalf, zero_add, sum]
  | odd k value odd above below => rw [floor?_of_ones finite value above.le below, odd]

end

/-! ### Back from the floor -/

def RoundsTo (x : Binary64) (places : Nat) (v : ℚ) : Prop :=
  ∃ a, x.roundHalfUp places = .ok a ∧ a.isFinite = true ∧ a.toRat = v

section

variable {x y : Binary64} {k n : Int} {places : Nat}

theorem RoundsTo.eq {v w : ℚ} (h : RoundsTo x places v) (k : RoundsTo x places w) : v = w := by
  obtain ⟨a, left, -, rfl⟩ := h
  obtain ⟨b, right, -, rfl⟩ := k
  rw [Except.ok.inj (left.symm.trans right)]

theorem representable_floor (h : y.floor? = .ok n) : Representable (n * (4 * quarterUnits)) := by
  have pos := quarterUnits_pos
  have finite := (floor?_eq_ok_iff.mp h).1
  obtain rfl := Except.ok.inj ((floor?_eq_ediv finite).symm.trans h)
  obtain ⟨p, places⟩ := exists_places finite
  obtain fine | coarse := Nat.lt_or_ge p (2 + 1072)
  · have half : (2 * 2 ^ p : Int) ≤ 4 * quarterUnits := by
      rw [one_eq_two_pow, ← pow_succ']
      exact pow_le_pow_right₀ (by norm_num) fine
    obtain ⟨left, right⟩ := abs_lt.mp places.few
    have low : -2 ^ 52 ≤ y.units / (4 * quarterUnits) := by
      rw [Int.le_ediv_iff_mul_le (by omega)]
      linarith
    have high : y.units / (4 * quarterUnits) < 2 ^ 52 := by
      rw [Int.ediv_lt_iff_lt_mul (by omega)]
      linarith
    refine representable_ones ?_
    rw [abs_le]
    omega
  · have whole : (4 * quarterUnits : Int) ∣ y.units := by
      rw [one_eq_two_pow]
      exact (pow_dvd_pow 2 coarse).trans places.dvd
    rw [Int.ediv_mul_cancel whole]
    exact places.representable

theorem roundsTo_of_floor? (factor : (decimalFactor places).isFinite = true)
    (floor : (x.scaledUp places).floor? = .ok (k * decimalScale places))
    (back : Representable (k * (4 * quarterUnits))) : RoundsTo x places k := by
  have pos := decimalScale_pos places
  obtain ⟨rank, number⟩ := rank_ofRatio (k * decimalScale places) pos
  rw [mul_right_comm, unitsPerOne_cast, back.roundRatio_mul pos] at rank
  obtain ⟨finite, units⟩ := back.units_eq number rank
  exact ⟨_, roundHalfUp_eq_ok_iff.mpr ⟨factor, finite, _, floor, rfl⟩, finite,
    toRat_eq_intCast_iff.mpr units⟩

theorem roundsTo_zero_of_floor? (h : (x.scaledUp 0).floor? = .ok n) : RoundsTo x 0 n := by
  have factor : (decimalFactor 0).isFinite = true := by decide +kernel
  refine roundsTo_of_floor? factor ?_ (representable_floor h)
  rw [h, decimalScale, pow_zero, Nat.cast_one, mul_one]

theorem roundsTo_of_few (finite : x.isFinite = true) (value : x.toRat = k)
    (few : (|k| + 1) * 10 ^ places ≤ 2 ^ 52) : RoundsTo x places k := by
  have power : (decimalScale places : Int) = 10 ^ places := by
    rw [decimalScale, Nat.cast_pow, Nat.cast_ofNat]
  have pos : (0 : Int) < decimalScale places := Int.natCast_pos.mpr (decimalScale_pos places)
  rw [← power, add_one_mul] at few
  have count : |k| ≤ |k| * decimalScale places := le_mul_of_one_le_right (abs_nonneg k) pos
  have nonneg := abs_nonneg k
  have scale : decimalScale places < 2 ^ 53 := by omega
  have size : |k * decimalScale places| < 2 ^ 52 := by
    rw [abs_mul, abs_of_pos pos]
    linarith
  have factor := (units_natCast scale).1
  rw [natCast_eq_ofInt] at factor
  exact roundsTo_of_floor? factor (floor?_scaledUp_of_whole finite value scale size)
    (representable_ones (by linarith))

end

/-! ### Rounding -/

def IsNearest (n : Int) (v : ℚ) : Prop := (n : ℚ) - 1 / 2 ≤ v ∧ v < n + 1 / 2

theorem isNearest_iff {n : Int} {v : ℚ} : IsNearest n v ↔ round v = n := by
  rw [round_eq, Int.floor_eq_iff, IsNearest]
  constructor <;> rintro ⟨low, high⟩ <;> constructor <;> linarith

structure RoundsHalfUp (x : Binary64) : Prop where
  /-- Without places it comes to an integer, which is the nearest one unless the half carries it over. -/
  nearest : ∃ n : Int, RoundsTo x 0 n ∧ (IsNearest n x.toRat ↔ ¬ CarriedOver x)
  /-- What is carried over comes to the integer after the nearest one. -/
  carried (moved : CarriedOver x) : ∃ n : Int, RoundsTo x 0 (n + 1) ∧ IsNearest n x.toRat
  /-- An integer keeps its value unless it is carried over. -/
  whole (k : Int) (value : x.toRat = k) : RoundsTo x 0 k ↔ ¬ CarriedOver x
  /-- At any number of places it does, as long as the half can be added to it exactly. -/
  few (k : Int) (places : Nat) (value : x.toRat = k) (small : (|k| + 1) * 10 ^ places ≤ 2 ^ 52) :
    RoundsTo x places k
  /-- A greater number does not come to a smaller one, at any number of places. -/
  ordered (y a b : Binary64) (places : Nat) (le : x ≤ y) (left : x.roundHalfUp places = .ok a)
    (right : y.roundHalfUp places = .ok b) : a ≤ b

theorem roundsHalfUp_of_isFinite {x : Binary64} (finite : x.isFinite = true) : RoundsHalfUp x := by
  have kept (moved : ¬ CarriedOver x) : RoundsTo x 0 (round x.toRat : Int) :=
    roundsTo_zero_of_floor? (floor?_of_not_carriedOver finite moved)
  have next (moved : CarriedOver x) : RoundsTo x 0 ((round x.toRat : Int) + 1) := by
    have rounded := roundsTo_zero_of_floor? (floor?_of_carriedOver finite moved)
    rwa [Int.cast_add, Int.cast_one] at rounded
  constructor
  case nearest =>
    by_cases moved : CarriedOver x
    · refine ⟨round x.toRat + 1, by exact_mod_cast next moved, iff_of_false ?_ (not_not.mpr moved)⟩
      rw [isNearest_iff]
      omega
    · exact ⟨_, kept moved, iff_of_true (isNearest_iff.mpr rfl) moved⟩
  case carried => exact fun moved => ⟨_, next moved, isNearest_iff.mpr rfl⟩
  case whole =>
    refine fun k value => ⟨fun rounded moved => ?_, fun moved => ?_⟩
    · have same := rounded.eq (next moved)
      rw [round_toRat_of_whole value] at same
      linarith
    · rw [← round_toRat_of_whole value]
      exact kept moved
  case few => exact fun k places value small => roundsTo_of_few finite value small
  case ordered => exact fun y a b places le left right => roundHalfUp_le_roundHalfUp le left right

theorem roundsHalfUp_belowHalf :
    (0.49999999999999994 : Binary64).isFinite = true ∧
      ∃ n : Int, RoundsTo 0.49999999999999994 0 (n + 1) ∧ IsNearest n (toRat 0.49999999999999994) :=
  ⟨belowHalf_spec.1, (roundsHalfUp_of_isFinite belowHalf_spec.1).carried (.belowHalf rfl)⟩

/-- The greatest number below a half comes to one, and the first odd integer in steps of one to the next. -/
theorem roundHalfUp_carries_over :
    (0.49999999999999994 : Binary64).roundHalfUp 0 = .ok 1 ∧
      ¬ IsNearest 1 (toRat 0.49999999999999994) ∧ IsNearest 0 (toRat 0.49999999999999994) ∧
      (4503599627370497 : Binary64).roundHalfUp 0 = .ok 4503599627370498 := by
  refine ⟨by decide +kernel, ?_, ?_, by decide +kernel⟩
  · rw [isNearest_iff, round_belowHalf]
    decide
  · rw [isNearest_iff, round_belowHalf]

end Footprint.Binary64
