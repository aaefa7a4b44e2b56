import Footprint.Proofs.Binary64.FixedPoints
import Mathlib.Data.Rat.Floor
import Mathlib.Tactic.FieldSimp
import Mathlib.Tactic.GCongr
import Mathlib.Tactic.NormNum

/-! Errors of rounding, counted in parts of the value that is meant. One operation adds at most one part of
`2 ^ 52`, so a sum of many terms is off by about as many parts as it has terms. Where these are too few to
reach from one half to the next, rounding to places comes to a count nearest the exact value, in whatever
order the terms were added. -/
namespace Footprint.Binary64

def toRat (x : Binary64) : ℚ := x.units / unitsPerOne

def Ordinary (v : ℚ) : Prop := v = 0 ∨ 1 ≤ 2 ^ 100 * v ∧ v ≤ 2 ^ 100

theorem ordinary_ratio {n d : ℕ} (pos : 0 < d) (hd : d ≤ 2 ^ 100) (hn : n ≤ 2 ^ 100) :
    Ordinary (n / d) := by
  have divisor : (0 : ℚ) < d := Nat.cast_pos.mpr pos
  obtain rfl | some := Nat.eq_zero_or_pos n
  · left
    simp
  · right
    have numerator : (1 : ℚ) ≤ n := Nat.one_le_cast.mpr some
    have left : (d : ℚ) ≤ 2 ^ 100 := by exact_mod_cast hd
    have right : (n : ℚ) ≤ 2 ^ 100 := by exact_mod_cast hn
    constructor
    · rw [← mul_div_assoc, le_div_iff₀ divisor]
      nlinarith
    · rw [div_le_iff₀ divisor]
      have whole : (1 : ℚ) ≤ d := Nat.one_le_cast.mpr pos
      nlinarith

namespace Ordinary

variable {v w : ℚ}

theorem nonneg (h : Ordinary v) : 0 ≤ v := by
  obtain rfl | ⟨low, -⟩ := h
  · exact le_rfl
  · linarith

theorem add (hv : Ordinary v) (hw : Ordinary w) (most : v + w ≤ 2 ^ 100) : Ordinary (v + w) := by
  have nonneg := hw.nonneg
  obtain rfl | ⟨low, -⟩ := hv
  · rwa [zero_add]
  · exact .inr ⟨by linarith, most⟩

end Ordinary

theorem two_pow_le_unitsPerOne : 2 ^ 154 ≤ unitsPerOne := by
  have small : 154 ≤ 1074 := by decide
  rw [unitsPerOne_eq]
  generalize 1074 = e at small ⊢
  exact Nat.pow_le_pow_right (by decide) small

/-! ### One operation -/

section

variable {m d one : ℕ} {r : ℚ}

theorem nonneg_of_size {n : Int} (exact : (n : ℚ) = r * (d * one)) (low : 1 ≤ 2 ^ 101 * r) : 0 ≤ n := by
  have nonneg : 0 ≤ r := by linarith
  have fraction : (0 : ℚ) ≤ n := by
    rw [exact]
    positivity
  exact_mod_cast fraction

theorem le_of_size (many : 2 ^ 154 ≤ one) (exact : (m : ℚ) = r * (d * one)) (low : 1 ≤ 2 ^ 101 * r) :
    2 ^ 53 * d ≤ m := by
  have units : ((2 ^ 154 : ℕ) : ℚ) ≤ one := Nat.cast_le.mpr many
  push_cast at units
  have scaled : (2 : ℚ) ^ 53 ≤ r * one := by nlinarith
  have fraction : (2 : ℚ) ^ 53 * d ≤ m := by
    rw [exact, mul_comm (d : ℚ), ← mul_assoc]
    exact mul_le_mul_of_nonneg_right scaled (Nat.cast_nonneg d)
  exact_mod_cast fraction

theorem le_of_size_le {k : ℕ} (exact : (m : ℚ) = r * (d * one)) (high : r ≤ (2 : ℚ) ^ k) :
    m ≤ 2 ^ k * one * d := by
  have fraction : (m : ℚ) ≤ 2 ^ k * one * d := by
    rw [exact, mul_assoc, mul_comm (d : ℚ)]
    exact mul_le_mul_of_nonneg_right high (by positivity)
  exact_mod_cast fraction

theorem ratio_error {rounded : ℕ} (some : 0 < one) (pos : 0 < d) (exact : (m : ℚ) = r * (d * one))
    (above : 2 ^ 53 * m ≤ 2 ^ 53 * (rounded * d) + m)
    (below : 2 ^ 53 * (rounded * d) ≤ 2 ^ 53 * m + m) : |(rounded : ℚ) / one - r| ≤ r / 2 ^ 53 := by
  have left : (2 ^ 53 * m : ℚ) ≤ 2 ^ 53 * (rounded * d) + m := by exact_mod_cast above
  have right : (2 ^ 53 * (rounded * d) : ℚ) ≤ 2 ^ 53 * m + m := by exact_mod_cast below
  have scale : (0 : ℚ) < d * one := by positivity
  have whole : (rounded : ℚ) / one * (d * one) = rounded * d := by field_simp
  rw [← whole, exact] at left right
  rw [abs_le]
  constructor
  · refine le_of_mul_le_mul_right ?_ scale
    linarith
  · refine le_of_mul_le_mul_right ?_ scale
    linarith

end

theorem roundRatio_eq_roundedUnits {m d k : ℕ} (pos : 0 < d) (small : k ≤ 1023)
    (most : m ≤ 2 ^ k * unitsPerOne * d) :
    roundRatio m d = roundedUnits m d ∧ roundedUnits m d < limitUnits := by
  have limit := two_pow_lt_limitUnits small
  have top : 2 ^ (1074 + k) = 2 ^ k * unitsPerOne := by rw [unitsPerOne_eq, ← pow_add, add_comm]
  have bound := roundRatio_le_two_pow (n := (m : Int)) pos small (by rw [top]; exact_mod_cast most)
  rw [roundRatio, if_neg (by omega), cappedUnits, Int.natAbs_natCast] at bound ⊢
  omega

theorem toRat_of_rank {z : Binary64} {n : Int} {d : ℕ} (number : z ≠ nan)
    (rank : z.rank = roundRatio n d) (pos : 0 < d) {r : ℚ} (exact : (n : ℚ) = r * (d * unitsPerOne))
    (size : r = 0 ∨ 1 ≤ 2 ^ 101 * r ∧ r ≤ 2 ^ 101) :
    z.isFinite = true ∧ |z.toRat - r| ≤ r / 2 ^ 53 := by
  have limit := limitUnits_pos
  obtain rfl | ⟨low, high⟩ := size
  · obtain rfl : n = 0 := by
      rw [zero_mul] at exact
      exact_mod_cast exact
    rw [roundRatio, if_neg (lt_irrefl 0), Int.natAbs_zero, cappedUnits_zero] at rank
    have finite := isFinite_of_rank number (by omega) (by omega)
    rw [rank_of_isFinite finite] at rank
    exact ⟨finite, by simp [toRat, rank]⟩
  obtain ⟨m, rfl⟩ := Int.eq_ofNat_of_zero_le (nonneg_of_size exact low)
  rw [Int.cast_natCast] at exact
  have least := le_of_size two_pow_le_unitsPerOne exact low
  obtain ⟨rounded, bound⟩ := roundRatio_eq_roundedUnits pos (by omega) (le_of_size_le exact high)
  rw [rounded] at rank
  have finite := isFinite_of_rank number (by omega) (by omega)
  rw [rank_of_isFinite finite] at rank
  obtain ⟨above, below⟩ := roundedUnits_error pos (unitPower_pos pos least)
  rw [toRat, rank, Int.cast_natCast]
  exact ⟨finite, ratio_error unitsPerOne_pos pos exact above below⟩

theorem unitsPerOne_ne_zero : (unitsPerOne : ℚ) ≠ 0 := Nat.cast_ne_zero.mpr unitsPerOne_pos.ne'

theorem units_eq_toRat_mul (x : Binary64) : (x.units : ℚ) = x.toRat * unitsPerOne :=
  (div_mul_cancel₀ _ unitsPerOne_ne_zero).symm

theorem toRat_natCast {n : ℕ} (fits : n < 2 ^ 53) : (n : Binary64).toRat = n := by
  rw [toRat, (units_natCast fits).2, Int.cast_mul, Int.cast_natCast, Int.cast_natCast,
    mul_div_assoc, div_self unitsPerOne_ne_zero, mul_one]

theorem toRat_le_toRat {x y : Binary64} (hx : x.isFinite = true) (hy : y.isFinite = true) (h : x ≤ y) :
    x.toRat ≤ y.toRat := by
  have order := rank_le_of_le h
  rw [rank_of_isFinite hx, rank_of_isFinite hy] at order
  exact div_le_div_of_nonneg_right (Int.cast_le.mpr order) (Nat.cast_nonneg _)

theorem toRat_nonneg_iff {x : Binary64} : 0 ≤ x.toRat ↔ 0 ≤ x.units := by
  rw [toRat, le_div_iff₀ (Nat.cast_pos.mpr unitsPerOne_pos), zero_mul, Int.cast_nonneg_iff]

theorem toRat_nonneg {x : Binary64} (h : 0 ≤ x) (finite : x.isFinite = true) : 0 ≤ x.toRat := by
  rw [toRat_nonneg_iff, ← rank_of_isFinite finite]
  exact rank_nonneg h

/-! ### Whole numbers -/

theorem floor?_eq_ok_iff_toRat {x : Binary64} {n : Int} :
    x.floor? = .ok n ↔ x.isFinite = true ∧ ⌊x.toRat⌋ = n := by
  have unit : (0 : Int) ≤ unitsPerOne := Int.natCast_nonneg _
  rw [floor?_eq_ok_iff, toRat, Rat.floor_intCast_div_natCast, Int.fdiv_eq_ediv_of_nonneg _ unit]

theorem ceil?_eq_ok_iff_toRat {x : Binary64} {n : Int} :
    x.ceil? = .ok n ↔ x.isFinite = true ∧ ⌈x.toRat⌉ = n := by
  have unit : (0 : Int) ≤ unitsPerOne := Int.natCast_nonneg _
  rw [ceil?_eq_ok_iff, toRat, Rat.ceil_intCast_div_natCast, Int.fdiv_eq_ediv_of_nonneg _ unit]

theorem truncate?_of_nonneg {x : Binary64} (finite : x.isFinite = true) (nonneg : 0 ≤ x.toRat) :
    x.truncate? = .ok ⌊x.toRat⌋ := by
  rw [truncate?_eq_ok_iff, toRat, Rat.floor_intCast_div_natCast,
    Int.tdiv_eq_ediv_of_nonneg (toRat_nonneg_iff.mp nonneg)]
  exact ⟨finite, rfl⟩

/-! ### Several operations -/

structure Approximates (x : Binary64) (v : ℚ) (parts : ℕ) : Prop where
  isFinite : x.isFinite = true
  nonneg : 0 ≤ v
  error : |x.toRat - v| ≤ parts * v / 2 ^ 52

namespace Approximates

variable {x y z : Binary64} {v w : ℚ} {k l : ℕ}

theorem mono (h : x.Approximates v k) (le : k ≤ l) : x.Approximates v l where
  isFinite := h.isFinite
  nonneg := h.nonneg
  error := by
    have parts : (k : ℚ) ≤ l := Nat.cast_le.mpr le
    have nonneg := h.nonneg
    refine h.error.trans ?_
    gcongr

theorem of_rank {n : Int} {d : ℕ} {r : ℚ} (number : z ≠ nan) (rank : z.rank = roundRatio n d)
    (pos : 0 < d) (exact : (n : ℚ) = r * (d * unitsPerOne)) (ordinary : Ordinary v)
    (nonneg : 0 ≤ v) (few : k ≤ 2 ^ 51) (close : |r - v| ≤ k * v / 2 ^ 52) :
    z.Approximates v (k + 1) := by
  have parts : (k : ℚ) ≤ 2 ^ 51 := by exact_mod_cast few
  have half : k * v / 2 ^ 52 ≤ v / 2 := by
    rw [div_le_div_iff₀ (by positivity) (by positivity)]
    nlinarith
  obtain ⟨left, right⟩ := abs_le.mp (close.trans half)
  have size : r = 0 ∨ 1 ≤ 2 ^ 101 * r ∧ r ≤ 2 ^ 101 := by
    obtain rfl | ⟨low, high⟩ := ordinary
    · exact .inl (by linarith)
    · exact .inr ⟨by linarith, by linarith⟩
  obtain ⟨finite, rounding⟩ := toRat_of_rank number rank pos exact size
  refine ⟨finite, nonneg, ?_⟩
  calc
    |z.toRat - v| ≤ |z.toRat - r| + |r - v| := abs_sub_le _ _ _
    _ ≤ r / 2 ^ 53 + k * v / 2 ^ 52 := by linarith
    _ ≤ ((k + 1 : ℕ) : ℚ) * v / 2 ^ 52 := by
      push_cast
      linarith

theorem add (hx : x.Approximates v k) (hy : y.Approximates w k) (few : k ≤ 2 ^ 51)
    (ordinary : Ordinary (v + w)) : (x + y).Approximates (v + w) (k + 1) := by
  obtain ⟨rank, number⟩ := rank_add hx.isFinite hy.isFinite
  refine of_rank (r := x.toRat + y.toRat) number rank Nat.one_pos ?_ ordinary
    (by linarith [hx.nonneg, hy.nonneg]) few ?_
  · rw [Int.cast_add, units_eq_toRat_mul, units_eq_toRat_mul]
    push_cast
    ring
  · calc
      |x.toRat + y.toRat - (v + w)| = |(x.toRat - v) + (y.toRat - w)| := by ring_nf
      _ ≤ |x.toRat - v| + |y.toRat - w| := abs_add_le _ _
      _ ≤ k * v / 2 ^ 52 + k * w / 2 ^ 52 := by linarith [hx.error, hy.error]
      _ = k * (v + w) / 2 ^ 52 := by ring

theorem mul (hx : x.Approximates v k) (hy : y.isFinite = true) (exact : y.toRat = w) (low : 0 ≤ w)
    (few : k ≤ 2 ^ 51) (ordinary : Ordinary (v * w)) : (x * y).Approximates (v * w) (k + 1) := by
  obtain ⟨rank, number⟩ := rank_mul hx.isFinite hy
  refine of_rank (r := x.toRat * w) number rank unitsPerOne_pos ?_ ordinary
    (Left.mul_nonneg hx.nonneg low) few ?_
  · rw [Int.cast_mul, units_eq_toRat_mul, units_eq_toRat_mul, exact]
    ring
  · calc
      |x.toRat * w - v * w| = |x.toRat - v| * w := by
        rw [← sub_mul, abs_mul, abs_of_nonneg low]
      _ ≤ k * v / 2 ^ 52 * w := mul_le_mul_of_nonneg_right hx.error low
      _ = k * (v * w) / 2 ^ 52 := by ring

theorem div (hx : x.Approximates v k) (hy : y.isFinite = true) (exact : y.toRat = w) (pos : 0 < w)
    (few : k ≤ 2 ^ 51) (ordinary : Ordinary (v / w)) : (x / y).Approximates (v / w) (k + 1) := by
  have units : 0 < y.units := by
    have positive : (0 : ℚ) < y.units := by
      rw [units_eq_toRat_mul, exact]
      exact mul_pos pos (Nat.cast_pos.mpr unitsPerOne_pos)
    exact_mod_cast positive
  obtain ⟨rank, number⟩ := rank_div hx.isFinite hy units
  have divisor : ((y.units.natAbs : ℕ) : ℚ) = w * unitsPerOne := by
    rw [← exact, ← units_eq_toRat_mul, Nat.cast_natAbs, abs_of_pos units]
  refine of_rank (r := x.toRat / w) number rank (by omega) ?_ ordinary
    (div_nonneg hx.nonneg pos.le) few ?_
  · rw [Int.cast_mul, units_eq_toRat_mul, divisor, Int.cast_natCast, mul_assoc w, ← mul_assoc (x.toRat / w),
      div_mul_cancel₀ _ pos.ne']
    ring
  · calc
      |x.toRat / w - v / w| = |x.toRat - v| / w := by
        rw [← sub_div, abs_div, abs_of_pos pos]
      _ ≤ k * v / 2 ^ 52 / w := div_le_div_of_nonneg_right hx.error pos.le
      _ = k * (v / w) / 2 ^ 52 := by ring

theorem of_isFinite (finite : x.isFinite = true) (nonneg : 0 ≤ x.toRat) : x.Approximates x.toRat 0 where
  isFinite := finite
  nonneg := nonneg
  error := by simp

theorem half : (0.5 : Binary64).Approximates (1 / 2) 0 := by
  have some : (quarterUnits : ℚ) ≠ 0 := by exact_mod_cast quarterUnits_pos.ne'
  have value : (0.5 : Binary64).toRat = 1 / 2 := by
    rw [toRat, half_units.2, unitsPerOne_eq_quarters]
    push_cast
    rw [mul_div_mul_right _ _ some]
    ring
  rw [← value]
  exact of_isFinite half_units.1 (by rw [value]; positivity)

end Approximates

theorem approximates_ofRatio {n d : ℕ} (pos : 0 < d) (hd : d ≤ 2 ^ 100) (hn : n ≤ 2 ^ 100) :
    (ofRatio n d).Approximates (n / d) 1 := by
  obtain ⟨rank, number⟩ := rank_ofRatio n pos
  have divisor : (d : ℚ) ≠ 0 := Nat.cast_ne_zero.mpr pos.ne'
  refine .of_rank (k := 0) (r := n / d) number rank pos ?_ (ordinary_ratio pos hd hn) (by positivity)
    (by omega) (by simp)
  rw [Int.cast_mul, Int.cast_natCast, Int.cast_natCast, ← mul_assoc, div_mul_cancel₀ _ divisor]

/-! ### Sums -/

theorem approximates_sum {α : Type} {xs : List α} {f : α → Binary64} {v : α → ℚ}
    (each : ∀ x ∈ xs, (f x).Approximates (v x) 1) (ordinary : ∀ x ∈ xs, Ordinary (v x))
    (most : (xs.map v).sum ≤ 2 ^ 100) (few : xs.length < 2 ^ 51) :
    (sum (xs.map f)).Approximates (xs.map v).sum (xs.length + 1) ∧ Ordinary (xs.map v).sum := by
  induction xs using List.reverseRecOn with
  | nil =>
    have value : (0 : Binary64).toRat = 0 := by rw [toRat, zero_spec.2.1, Int.cast_zero, zero_div]
    have exact := Approximates.of_isFinite zero_spec.1 value.ge
    rw [value] at exact
    exact ⟨exact.mono (Nat.zero_le _), .inl rfl⟩
  | append_singleton xs x ih =>
    have last := ordinary x (by simp)
    have total : ((xs ++ [x]).map v).sum = (xs.map v).sum + v x := by simp
    rw [total] at most ⊢
    rw [List.length_append, List.length_singleton] at few ⊢
    obtain ⟨whole, size⟩ := ih (fun y hy => each y (by simp [hy]))
      (fun y hy => ordinary y (by simp [hy])) (by linarith [last.nonneg]) (by omega)
    have sum := size.add last most
    rw [List.map_append, List.map_singleton, sum_append_singleton]
    exact ⟨whole.add ((each x (by simp)).mono (by omega)) (by omega) sum, sum⟩

/-! ### Rounding to places -/

theorem decimalFactor_spec {places : ℕ} (scale : decimalScale places ≤ 2 ^ 10) :
    (decimalFactor places).isFinite = true ∧ (decimalFactor places).toRat = decimalScale places := by
  have fits : decimalScale places < 2 ^ 53 := by omega
  have finite := (units_natCast fits).1
  have value := toRat_natCast fits
  rw [natCast_eq_ofInt] at finite value
  exact ⟨finite, value⟩

theorem factors_le {m n bound : ℕ} (small : m * n ≤ bound) (hm : 0 < m) (hn : 0 < n) :
    m ≤ bound ∧ n ≤ bound :=
  ⟨(Nat.le_mul_of_pos_right m hn).trans small, (Nat.le_mul_of_pos_left n hm).trans small⟩

def ClearOfHalves (v : ℚ) (places parts : ℕ) : Prop :=
  ∀ n : ℕ, parts * (v * decimalScale places + 1 / 2) / 2 ^ 52 < |v * decimalScale places + 1 / 2 - n|

theorem clearOfHalves_of_between {v : ℚ} {places parts n : ℕ}
    (between : n + parts * (v * decimalScale places + 1 / 2) / 2 ^ 52 < v * decimalScale places + 1 / 2 ∧
      v * decimalScale places + 1 / 2 + parts * (v * decimalScale places + 1 / 2) / 2 ^ 52 < n + 1) :
    ClearOfHalves v places parts := by
  obtain ⟨low, high⟩ := between
  intro m
  rw [lt_abs]
  obtain below | above := le_or_gt m n
  · have order : (m : ℚ) ≤ n := Nat.cast_le.mpr below
    exact .inl (by linarith)
  · have order : (n + 1 : ℚ) ≤ m := by exact_mod_cast above
    exact .inr (by linarith)

namespace Approximates

variable {x : Binary64} {v : ℚ} {k : ℕ}

theorem scaledUp {places : ℕ} (h : x.Approximates v k) (scale : decimalScale places ≤ 2 ^ 10)
    (few : k < 2 ^ 51) (ordinary : Ordinary (v * decimalScale places))
    (most : v * decimalScale places + 1 / 2 ≤ 2 ^ 100) :
    (x.scaledUp places).Approximates (v * decimalScale places + 1 / 2) (k + 2) := by
  have nonneg := ordinary.nonneg
  obtain ⟨finite, factor⟩ := decimalFactor_spec scale
  have scaled := h.mul finite factor (Nat.cast_nonneg _) few.le ordinary
  exact scaled.add (half.mono (Nat.zero_le _)) few (.inr ⟨by linarith, most⟩)

theorem floor? (h : x.Approximates v k) (few : k ≤ 2 ^ 52) :
    ∃ n : ℕ, x.floor? = .ok n ∧ n ≤ x.toRat ∧ x.toRat < n + 1 := by
  have parts : (k : ℚ) ≤ 2 ^ 52 := by exact_mod_cast few
  have size : k * v / 2 ^ 52 ≤ v := by
    rw [div_le_iff₀ (by positivity)]
    nlinarith [h.nonneg]
  have nonneg : 0 ≤ x.toRat := by linarith [(abs_le.mp h.error).1]
  have floor : Int.fdiv x.units unitsPerOne = ⌊x.toRat⌋ := by
    rw [Int.fdiv_eq_ediv_of_nonneg _ (Int.natCast_nonneg _), toRat, Rat.floor_intCast_div_natCast]
  obtain ⟨n, whole⟩ := Int.eq_ofNat_of_zero_le (Int.floor_nonneg.mpr nonneg)
  refine ⟨n, floor?_eq_ok_iff.mpr ⟨h.isFinite, floor.trans whole⟩, ?_⟩
  obtain ⟨low, high⟩ := Int.floor_eq_iff.mp whole
  exact ⟨by exact_mod_cast low, by exact_mod_cast high⟩

/-- The count that rounding comes to is the whole part of the exact value and a half, off by so many
parts. -/
theorem roundHalfUp {places : ℕ} (h : x.Approximates v k) (scale : decimalScale places ≤ 2 ^ 10)
    (few : k + 2 ≤ 2 ^ 51) (ordinary : Ordinary (v * decimalScale places))
    (most : v * decimalScale places + 1 / 2 ≤ 2 ^ 99) :
    ∃ n : ℕ, x.roundHalfUp places = .ok (ofRatio n (decimalScale places)) ∧
      n ≤ v * decimalScale places + 1 / 2 +
        ((k + 2 : ℕ) : ℚ) * (v * decimalScale places + 1 / 2) / 2 ^ 52 ∧
      v * decimalScale places + 1 / 2 <
        n + 1 + ((k + 2 : ℕ) : ℚ) * (v * decimalScale places + 1 / 2) / 2 ^ 52 := by
  have pos := decimalScale_pos places
  have scaled := h.scaledUp scale (by omega) ordinary (by linarith)
  obtain ⟨n, floorOk, low, high⟩ := scaled.floor? (by omega)
  obtain ⟨left, right⟩ := abs_le.mp scaled.error
  refine ⟨n, ?_, by linarith, by linarith⟩
  have parts : ((k + 2 : ℕ) : ℚ) ≤ 2 ^ 52 := by exact_mod_cast few.trans (by norm_num)
  have size : ((k + 2 : ℕ) : ℚ) * (v * decimalScale places + 1 / 2) / 2 ^ 52 ≤ 2 ^ 99 := by
    rw [div_le_iff₀ (by positivity)]
    nlinarith [scaled.nonneg]
  have counted : n ≤ 2 ^ 100 := by
    have bound : (n : ℚ) ≤ 2 ^ 100 := by linarith
    exact_mod_cast bound
  have back := (approximates_ofRatio pos (scale.trans (by norm_num)) counted).isFinite
  exact roundHalfUp_eq_ok_iff.mpr ⟨(decimalFactor_spec scale).1, back, n, floorOk, rfl⟩

theorem roundHalfUp_of_clear {places : ℕ} (h : x.Approximates v k) (scale : decimalScale places ≤ 2 ^ 10)
    (few : k + 2 ≤ 2 ^ 51) (ordinary : Ordinary (v * decimalScale places))
    (most : v * decimalScale places + 1 / 2 ≤ 2 ^ 99) (clear : ClearOfHalves v places (k + 2)) :
    x.roundHalfUp places =
      .ok (ofRatio ⌊v * decimalScale places + 1 / 2⌋₊ (decimalScale places)) := by
  obtain ⟨n, rounded, low, high⟩ := h.roundHalfUp scale few ordinary most
  have whole : ⌊v * decimalScale places + 1 / 2⌋₊ = n := by
    refine (Nat.floor_eq_iff (by linarith [ordinary.nonneg])).mpr ⟨?_, ?_⟩
    · by_contra above
      have near := clear n
      rw [abs_of_neg (by linarith)] at near
      linarith
    · by_contra below
      have near := clear (n + 1)
      push_cast at near below
      rw [abs_of_nonneg (by linarith)] at near
      push_cast at high
      linarith
  rw [rounded, whole]

/-- Rounding to places comes to a count nearest the fraction that is meant. Halfway between two counts it
may be either of them. -/
theorem roundHalfUp_of_fraction {places n d : ℕ} (h : x.Approximates v k)
    (scale : decimalScale places ≤ 2 ^ 10) (pos : 0 < d) (exact : v * decimalScale places * d = n)
    (small : (k + 2) * (2 * n + d) ≤ 2 ^ 51) :
    ∃ count : ℕ, x.roundHalfUp places = .ok (ofRatio count (decimalScale places)) ∧
      2 * n ≤ 2 * (count * d) + d ∧ 2 * (count * d) ≤ 2 * n + d := by
  obtain ⟨few, some⟩ := factors_le small (by omega) (by omega)
  have divisor : (0 : ℚ) < d := Nat.cast_pos.mpr pos
  have value : v * decimalScale places = n / d := (eq_div_iff divisor.ne').mpr exact
  have ordinary := ordinary_ratio pos (n := n) (by omega) (by omega)
  rw [← value] at ordinary
  have whole : (v * decimalScale places + 1 / 2) * (2 * d) = 2 * n + d := by
    rw [← exact]
    ring
  have size : v * decimalScale places + 1 / 2 ≤ 2 ^ 99 := by
    have bound : ((2 * n + d : ℕ) : ℚ) ≤ 2 ^ 51 := by exact_mod_cast some
    have one : (1 : ℚ) ≤ d := Nat.one_le_cast.mpr pos
    push_cast at bound
    nlinarith [ordinary.nonneg]
  obtain ⟨count, rounded, low, high⟩ := h.roundHalfUp scale few ordinary size
  -- The error, in halves of the denominator, is less than one of them.
  have error : ((k + 2 : ℕ) : ℚ) * (v * decimalScale places + 1 / 2) / 2 ^ 52 * (2 * d) < 1 := by
    have bound : (((k + 2) * (2 * n + d) : ℕ) : ℚ) ≤ 2 ^ 51 := by exact_mod_cast small
    push_cast at bound ⊢
    rw [div_mul_eq_mul_div, mul_assoc, whole, div_lt_one (by positivity)]
    exact bound.trans_lt (by norm_num)
  refine ⟨count, rounded, ?_, ?_⟩
  · have scaled := mul_lt_mul_of_pos_right high (by linarith : (0 : ℚ) < 2 * d)
    rw [whole, add_mul _ _ (2 * (d : ℚ))] at scaled
    have bound : (2 * n : ℚ) < 2 * (count * d) + d + 1 := by linarith
    have counts : 2 * n < 2 * (count * d) + d + 1 := by exact_mod_cast bound
    omega
  · have scaled := mul_le_mul_of_nonneg_right low (by linarith : (0 : ℚ) ≤ 2 * d)
    rw [add_mul, whole] at scaled
    have bound : (2 * (count * d) : ℚ) < 2 * n + d + 1 := by linarith
    have counts : 2 * (count * d) < 2 * n + d + 1 := by exact_mod_cast bound
    omega

end Approximates

/-! ### Numbers of few places -/

theorem IsDecimal.approximates {a : Binary64} {places count : ℕ} (h : a.IsDecimal places count) :
    a.Approximates (count / decimalScale places) 1 := by
  have few := h.few
  have scale := h.scale_le
  rw [h.eq]
  exact approximates_ofRatio (decimalScale_pos places) (by omega) (by omega)

theorem IsDecimal.count_le {a : Binary64} {places count bound : ℕ} (h : a.IsDecimal places count)
    (high : a.toRat * decimalScale places ≤ bound) (small : bound ≤ 2 ^ 50) : count ≤ bound := by
  have pos : (0 : ℚ) < decimalScale places := Nat.cast_pos.mpr (decimalScale_pos places)
  have near := (abs_le.mp h.approximates.error).1
  have scaled := mul_le_mul_of_nonneg_right near pos.le
  have whole : (count : ℚ) / decimalScale places * decimalScale places = count :=
    div_mul_cancel₀ _ pos.ne'
  rw [Nat.cast_one, one_mul, neg_mul, div_mul_eq_mul_div, sub_mul, whole] at scaled
  have limit : (bound : ℚ) ≤ 2 ^ 50 := by exact_mod_cast small
  have counted : (count : ℚ) < bound + 1 := by linarith
  have counts : count < bound + 1 := by exact_mod_cast counted
  omega

section

variable {α : Type} {xs : List α} {f : α → Binary64} {count : α → ℕ} {places : ℕ}

theorem sum_map_ratio (d : ℕ) :
    (xs.map fun x => (count x : ℚ) / d).sum = ((xs.map count).sum : ℕ) / d := by
  induction xs with
  | nil => simp
  | cons x xs ih => simp [ih, add_div]

theorem approximates_sum_of_isDecimal (decimals : ∀ x ∈ xs, (f x).IsDecimal places (count x))
    (few : xs.length < 2 ^ 51) (most : (xs.map count).sum ≤ 2 ^ 100) :
    (sum (xs.map f)).Approximates ((xs.map count).sum / decimalScale places) (xs.length + 1) := by
  rw [← sum_map_ratio]
  refine (approximates_sum (fun x hx => (decimals x hx).approximates) (fun x hx => ?_) ?_ few).1
  · have counted := (decimals x hx).few
    have scale := (decimals x hx).scale_le
    exact ordinary_ratio (decimalScale_pos places) (by omega) (by omega)
  · have bound : ((xs.map count).sum : ℚ) ≤ 2 ^ 100 := by exact_mod_cast most
    have whole : (1 : ℚ) ≤ decimalScale places := Nat.one_le_cast.mpr (decimalScale_pos places)
    rw [sum_map_ratio]
    exact (div_le_self (Nat.cast_nonneg _) whole).trans bound

theorem roundHalfUp_sum_of_isDecimal (decimals : ∀ x ∈ xs, (f x).IsDecimal places (count x))
    (scale : decimalScale places ≤ 2 ^ 10)
    (small : (xs.length + 3) * (2 * (xs.map count).sum + 1) ≤ 2 ^ 51) :
    (sum (xs.map f)).roundHalfUp places = .ok (ofRatio (xs.map count).sum (decimalScale places)) := by
  obtain ⟨few, some⟩ := factors_le small (by omega) (by omega)
  have whole : (decimalScale places : ℚ) ≠ 0 := Nat.cast_ne_zero.mpr (decimalScale_pos places).ne'
  have sum := approximates_sum_of_isDecimal decimals (by omega) (by omega)
  obtain ⟨total, rounded, low, high⟩ := sum.roundHalfUp_of_fraction scale Nat.one_pos
    (by rw [div_mul_cancel₀ _ whole, Nat.cast_one, mul_one]) small
  obtain rfl : total = (xs.map count).sum := by omega
  exact rounded

theorem roundHalfUp_mean_of_isDecimal (decimals : ∀ x ∈ xs, (f x).IsDecimal places (count x))
    (scale : decimalScale places ≤ 2 ^ 10) (nonempty : 0 < xs.length)
    (small : (xs.length + 4) * (2 * (xs.map count).sum + xs.length) ≤ 2 ^ 51) :
    ∃ mean : ℕ, (sum (xs.map f) / (xs.length : Binary64)).roundHalfUp places =
        .ok (ofRatio mean (decimalScale places)) ∧
      2 * (xs.map count).sum ≤ 2 * (mean * xs.length) + xs.length ∧
      2 * (mean * xs.length) ≤ 2 * (xs.map count).sum + xs.length := by
  obtain ⟨few, some⟩ := factors_le small (by omega) (by omega)
  have whole : (decimalScale places : ℚ) ≠ 0 := Nat.cast_ne_zero.mpr (decimalScale_pos places).ne'
  have length : (xs.length : ℚ) ≠ 0 := Nat.cast_ne_zero.mpr nonempty.ne'
  have sum := approximates_sum_of_isDecimal decimals (by omega) (by omega)
  have ordinary := ordinary_ratio (n := (xs.map count).sum) (d := decimalScale places * xs.length)
    (Nat.mul_pos (decimalScale_pos places) nonempty) ?_ (by omega)
  · rw [Nat.cast_mul, ← div_div] at ordinary
    have mean := sum.div (units_natCast (n := xs.length) (by omega)).1 (toRat_natCast (by omega))
      (Nat.cast_pos.mpr nonempty) (by omega) ordinary
    exact mean.roundHalfUp_of_fraction scale nonempty (by field_simp) small
  · have product := Nat.mul_le_mul scale (show xs.length ≤ 2 ^ 51 by omega)
    exact product.trans (by norm_num)

end

end Footprint.Binary64
