import Footprint.Proofs.Binary64.Mean
import Footprint.Proofs.Binary64.Range

/-! Numbers of few decimal places, which rounding to these places leaves as they are. Such a number is
the double nearest a count of its last places. Scaled up it need not come to that count again, but up to
`2 ^ 41` it is off by a quarter at most, so that the half that is added does not change the floor. -/
namespace Footprint.Binary64

/-! ### Quarters -/

@[irreducible] def quarterUnits : Nat := 2 ^ 1072

theorem representable_quarters {n : Nat} (fits : n < 2 ^ 53) : Representable (n * quarterUnits) := by
  refine ⟨n, 1072, fits, by omega, ?_⟩
  rw [← Nat.cast_mul, Int.natAbs_natCast]
  unfold quarterUnits
  rfl

theorem two_pow_le_quarterUnits : 2 ^ 63 ≤ quarterUnits := by
  unfold quarterUnits
  have large : 63 ≤ 1072 := by omega
  generalize 1072 = e at large ⊢
  exact Nat.pow_le_pow_right (by omega) large

theorem quarterUnits_pos : (0 : Int) < quarterUnits := by
  have := two_pow_le_quarterUnits
  omega

theorem unitsPerOne_eq_quarters : unitsPerOne = 4 * quarterUnits := by
  have power : 1074 = 2 + 1072 := rfl
  rw [unitsPerOne_eq, power, pow_add]
  unfold quarterUnits
  generalize 1072 = e
  rfl

theorem unitsPerOne_cast : (unitsPerOne : Int) = 4 * quarterUnits := by
  rw [unitsPerOne_eq_quarters, Nat.cast_mul, Nat.cast_ofNat]

theorem half_units : (0.5 : Binary64).isFinite = true ∧ (0.5 : Binary64).units = 2 * quarterUnits := by
  have counted : (0.5 : Binary64).isFinite = true ∧ 2 * (0.5 : Binary64).units = unitsPerOne := by
    decide +kernel
  obtain ⟨finite, double⟩ := counted
  rw [unitsPerOne_cast] at double
  exact ⟨finite, by linarith⟩

/-! ### Numbers of few places -/

theorem eq_of_rank_eq {x y : Binary64} (hx : x ≠ nan) (hy : y.isFinite = true) (nonzero : y.units ≠ 0)
    (rank : x.rank = y.units) : x = y := by
  have number := ne_nan_of_isFinite hy
  have bounds := units_lt y
  have finite := isFinite_of_rank hx (by omega) (by omega)
  rw [← rank_of_isFinite hy] at rank
  exact eq_of_le_of_le finite hy nonzero ((le_iff_rank hx number).mpr rank.le)
    ((le_iff_rank number hx).mpr rank.ge)

structure IsDecimal (a : Binary64) (places count : Nat) : Prop where
  few : count < 2 ^ 51
  scale_le : decimalScale places ≤ 2 ^ 10
  eq : a = ofRatio count (decimalScale places)
  isFinite : a.isFinite = true

instance (a : Binary64) (places count : Nat) : Decidable (a.IsDecimal places count) :=
  decidable_of_iff (count < 2 ^ 51 ∧ decimalScale places ≤ 2 ^ 10 ∧
      a = ofRatio count (decimalScale places) ∧ a.isFinite = true)
    ⟨fun ⟨a, b, c, d⟩ => ⟨a, b, c, d⟩, fun ⟨a, b, c, d⟩ => ⟨a, b, c, d⟩⟩

theorem ofUnits_zero (negative : Bool) (d : Nat) : ofUnits negative 0 d = zero negative := by
  have rounded : roundedSignificand 0 d = 0 ∧ unitPower 0 d = 0 := by
    simp [roundedSignificand, unitPower, nearestEven]
  rw [ofUnits_eq]
  simp only [rounded]
  rfl

namespace IsDecimal

variable {a : Binary64} {places count : Nat}

theorem units_eq (h : a.IsDecimal places count) :
    a.units = roundedUnits (count * unitsPerOne) (decimalScale places) := by
  obtain ⟨rank, -⟩ := rank_ofRatio count (decimalScale_pos places)
  rw [← h.eq, rank_of_isFinite h.isFinite] at rank
  have bound := (units_lt a).2
  have nonneg : ¬ (count * unitsPerOne : Int) < 0 := by
    have := Int.natCast_nonneg (count * unitsPerOne)
    rw [Nat.cast_mul] at this
    omega
  rw [rank, roundRatio, if_neg nonneg, cappedUnits, Int.natAbs_mul, Int.natAbs_natCast,
    Int.natAbs_natCast] at bound ⊢
  omega

theorem decimalFactor_units (h : a.IsDecimal places count) :
    (decimalFactor places).isFinite = true ∧
      (decimalFactor places).units = decimalScale places * unitsPerOne := by
  have scale := h.scale_le
  have exact := units_natCast (n := decimalScale places) (by omega)
  rwa [natCast_eq_ofInt] at exact

theorem units_mul_between (h : a.IsDecimal places count) :
    ((4 * count - 1 : Nat) : Int) * quarterUnits ≤ a.units * decimalScale places ∧
      a.units * decimalScale places ≤ ((4 * count + 1 : Nat) : Int) * quarterUnits := by
  have pos := decimalScale_pos places
  have few := h.few
  have scale := h.scale_le
  rw [h.units_eq]
  obtain rfl | some := Nat.eq_zero_or_pos count
  · rw [Nat.zero_mul, roundedUnits_zero]
    simp
  have quarters : count * unitsPerOne = 4 * (count * quarterUnits) := by
    rw [unitsPerOne_eq_quarters]
    ring
  have least : quarterUnits ≤ count * quarterUnits := Nat.le_mul_of_pos_left _ some
  have unit := two_pow_le_quarterUnits
  have whole : 2 ^ 53 * decimalScale places ≤ count * unitsPerOne := by omega
  obtain ⟨above, below⟩ := roundedUnits_error pos (unitPower_pos pos whole)
  have most : count * quarterUnits ≤ 2 ^ 51 * quarterUnits := Nat.mul_le_mul_right _ few.le
  have low : (4 * count - 1) * quarterUnits = 4 * (count * quarterUnits) - quarterUnits := by
    rw [Nat.sub_mul]
    ring_nf
  have high : (4 * count + 1) * quarterUnits = 4 * (count * quarterUnits) + quarterUnits := by ring
  norm_cast
  rw [low, high]
  generalize roundedUnits (count * unitsPerOne) (decimalScale places) * decimalScale places = u at *
  omega

theorem floor?_scaledUp (h : a.IsDecimal places count) : (a.scaledUp places).floor? = .ok count := by
  have few := h.few
  obtain ⟨factorFinite, factorUnits⟩ := h.decimalFactor_units
  obtain ⟨halfFinite, halfUnits⟩ := half_units
  obtain ⟨low, high⟩ := h.units_mul_between
  -- The product is the exact one with a rounding that stays between the same quarters.
  obtain ⟨rank, number⟩ := rank_mul h.isFinite factorFinite
  rw [factorUnits, ← mul_assoc] at rank
  have lowFits : 4 * count - 1 < 2 ^ 53 := by omega
  have highFits : 4 * count + 1 < 2 ^ 53 := by omega
  obtain ⟨finite, least, most⟩ := (representable_quarters lowFits).units_between
    (representable_quarters highFits) number unitsPerOne_pos rank
    (Int.mul_le_mul_of_nonneg_right low (Int.natCast_nonneg _))
    (Int.mul_le_mul_of_nonneg_right high (Int.natCast_nonneg _))
  have whole : (4 * count - 1 : Int) * quarterUnits ≤ ((4 * count - 1 : Nat) : Int) * quarterUnits :=
    Int.mul_le_mul_of_nonneg_right (by omega) (Int.natCast_nonneg _)
  push_cast at most
  -- So does the sum, and between these there is no other whole number.
  obtain ⟨sumRank, sumNumber⟩ := rank_add finite halfFinite
  rw [halfUnits] at sumRank
  have sumFits : 4 * count < 2 ^ 53 := by omega
  have nextFits : 4 * count + 3 < 2 ^ 53 := by omega
  obtain ⟨sumFinite, above, below⟩ := (representable_quarters sumFits).units_between
    (representable_quarters nextFits) sumNumber Nat.one_pos sumRank (by push_cast; linarith)
    (by push_cast; linarith)
  refine floor?_eq_ok_iff.mpr ⟨sumFinite, ?_⟩
  have quarter := quarterUnits_pos
  rw [Int.fdiv_eq_ediv_of_nonneg _ (Int.natCast_nonneg _), unitsPerOne_cast]
  push_cast at above below
  refine (Int.ediv_eq_iff_of_pos (by linarith)).mpr ⟨?_, ?_⟩
  · exact le_trans (by linarith) above
  · exact lt_of_le_of_lt below (by linarith)

theorem roundHalfUp (h : a.IsDecimal places count) : a.roundHalfUp places = .ok a :=
  roundHalfUp_eq_ok_iff.mpr ⟨h.decimalFactor_units.1, h.isFinite, count, h.floor?_scaledUp, h.eq.symm⟩

theorem units_ne_zero (h : a.IsDecimal places count) : a = 0 ∨ a.units ≠ 0 := by
  obtain rfl | some := Nat.eq_zero_or_pos count
  · left
    rw [h.eq, ofRatio, Int.natAbs_natCast, Nat.zero_mul, ofUnits_zero]
    decide +kernel
  · right
    obtain ⟨low, -⟩ := h.units_mul_between
    have unit := two_pow_le_quarterUnits
    have positive : 0 < ((4 * count - 1 : Nat) : Int) * quarterUnits :=
      Int.mul_pos (by omega) (by omega)
    rintro zero
    rw [zero, zero_mul] at low
    omega

theorem zero_add_eq (h : a.IsDecimal places count) : 0 + a = a := by
  obtain rfl | nonzero := h.units_ne_zero
  · exact zero_spec.2.2
  obtain ⟨rank, number⟩ := rank_add zero_spec.1 h.isFinite
  have exact := roundRatio_units h.isFinite Nat.one_pos
  rw [Nat.cast_one, mul_one] at exact
  rw [zero_spec.2.1, Int.zero_add, exact] at rank
  exact eq_of_rank_eq number h.isFinite nonzero rank

end IsDecimal

theorem isDecimal_of_roundHalfUp {x a : Binary64} {places : Nat} (nonneg : 0 ≤ x)
    (scale : decimalScale places ≤ 2 ^ 10) (small : a.UpTo 40) (h : x.roundHalfUp places = .ok a) :
    ∃ count, a.IsDecimal places count := by
  have pos := decimalScale_pos places
  obtain ⟨factor, finite, floor, floorOk, back⟩ := roundHalfUp_eq_ok_iff.mp h
  have floorNonneg := nonneg_of_floor? (scaledUp_nonneg factor nonneg) floorOk
  obtain ⟨count, rfl⟩ := Int.eq_ofNat_of_zero_le floorNonneg
  refine ⟨count, ?_, scale, back.symm, finite⟩
  by_contra many
  -- A greater count is beyond `2 ^ 41` when scaled back, and that is a double.
  have large : (2 ^ 41 : Nat) * (unitsPerOne : Int) * decimalScale places ≤ count * unitsPerOne := by
    have counts : 2 ^ 41 * decimalScale places ≤ count := by omega
    calc
      _ = ((2 ^ 41 * decimalScale places : Nat) : Int) * unitsPerOne := by push_cast; ring
      _ ≤ count * (unitsPerOne : Int) :=
        Int.mul_le_mul_of_nonneg_right (Int.ofNat_le.mpr counts) (Int.natCast_nonneg _)
  have rank := ((steps_natCast (2 ^ 41)).representable (by norm_num)).le_roundRatio pos large
  rw [← (rank_ofRatio count pos).1, back] at rank
  have bound := small.rank_le
  rw [pow_add, ← unitsPerOne_eq, Nat.cast_mul] at bound
  have unit : (0 : Int) < unitsPerOne := Int.natCast_pos.mpr unitsPerOne_pos
  generalize (unitsPerOne : Int) = one at rank bound unit
  omega

theorem roundHalfUp_sum_singleton {a : Binary64} {places count : Nat} (h : a.IsDecimal places count) :
    (sum [a]).roundHalfUp places = .ok a := by
  have single : sum [a] = a := h.zero_add_eq
  rw [single, h.roundHalfUp]

theorem div_one_eq {x : Binary64} (hx : x.isFinite = true) (nonzero : x.units ≠ 0) :
    x / ((1 : Nat) : Binary64) = x := by
  obtain ⟨finite, units⟩ := units_natCast (n := 1) (by omega)
  rw [Nat.cast_one, one_mul] at units
  have positive : 0 < ((1 : Nat) : Binary64).units := by
    rw [units]
    exact Int.natCast_pos.mpr unitsPerOne_pos
  obtain ⟨rank, number⟩ := rank_div hx finite positive
  rw [units, Int.natAbs_natCast, roundRatio_units hx unitsPerOne_pos] at rank
  exact eq_of_rank_eq number hx nonzero rank

end Footprint.Binary64
