import Footprint.Proofs.Binary64.HalfUp

/-! Numbers between zero and a power of two. The powers bound every result before it is rounded, and since
they are doubles themselves they bound it afterwards: exponents of factors add up, and a product stays
finite as long as they do not reach 1024. -/
namespace Footprint

/-! ### Rounding up to a power of two -/

theorem roundRatio_nonneg {n : Int} (h : 0 ≤ n) (d : Nat) : 0 ≤ roundRatio n d := by
  rw [roundRatio, if_neg (by omega)]
  exact Int.natCast_nonneg _

theorem two_pow_eq (k : Nat) : 2 ^ (1074 + k) = 2 ^ 52 * 2 ^ (1022 + k) := by
  rw [← pow_add]
  congr 1
  omega

theorem two_pow_lt_limitUnits {k : Nat} (small : k ≤ 1023) : 2 ^ (1074 + k) < limitUnits := by
  rw [two_pow_eq]
  exact mul_two_pow_lt_limitUnits (by norm_num) (by omega)

theorem roundRatio_le_two_pow {n : Int} {d k : Nat} (pos : 0 < d) (small : k ≤ 1023)
    (high : n ≤ (2 ^ (1074 + k) : Nat) * d) : roundRatio n d ≤ (2 ^ (1074 + k) : Nat) := by
  have exact : roundRatio ((2 ^ (1074 + k) : Nat) * d) d = (2 ^ (1074 + k) : Nat) :=
    roundRatio_mul (m := 2 ^ 52) (e := 1022 + k) (by norm_num)
      (by rw [Int.natAbs_natCast, two_pow_eq])
      (by rw [Int.natAbs_natCast]; exact (two_pow_lt_limitUnits small).le) pos
  rw [← exact]
  exact roundRatio_le_roundRatio pos pos (Int.mul_le_mul_of_nonneg_right high (Int.natCast_nonneg d))

namespace Binary64

theorem unitsPerOne_eq : unitsPerOne = 2 ^ 1074 := by
  unfold unitsPerOne
  generalize 1074 = e
  exact Nat.one_shiftLeft e

theorem roundRatio_units {x : Binary64} (hx : x.isFinite = true) {d : Nat} (pos : 0 < d) :
    roundRatio (x.units * d) d = x.units := by
  have range := (magnitude_lt x).le
  have magnitudes := units_natAbs x
  cases x with
  | nan | infinite => cases hx
  | finite negative m p canonical =>
    refine roundRatio_mul (m := m) (e := p) canonical.significand_lt ?_ (magnitudes ▸ range) pos
    rw [magnitudes, magnitude, Nat.shiftLeft_eq]

/-! ### Numbers that are not negative -/

theorem zero_le_iff {x : Binary64} (hx : x ≠ nan) : 0 ≤ x ↔ 0 ≤ x.rank := by
  have zero : (0 : Binary64).rank = 0 := by
    rw [rank_of_isFinite zero_spec.1, zero_spec.2.1]
  rw [le_iff_rank (ne_nan_of_isFinite zero_spec.1) hx, zero]

theorem rank_nonneg {x : Binary64} (h : 0 ≤ x) : 0 ≤ x.rank := (zero_le_iff (ne_nan_of_le h).2).mp h

theorem zero_le_max (x : Binary64) : 0 ≤ Binary64.max 0 x := by
  unfold Binary64.max
  split
  · next above =>
    have number : x ≠ nan := by
      rintro rfl
      exact not_lt_nan _ above
    have order := (lt_iff_rank (ne_nan_of_isFinite zero_spec.1) number).mp above
    exact (le_iff_rank (ne_nan_of_isFinite zero_spec.1) number).mpr order.le
  · exact zero_le_zero

theorem mul_nonneg {x z : Binary64} (hx : 0 ≤ x) (hz : z.isFinite = true) (pos : 0 < z.units) :
    0 ≤ x * z := by
  have number := mul_ne_nan (ne_nan_of_le hx).2 hz pos
  rw [zero_le_iff number]
  obtain rfl | fx := nonneg_cases hx
  · rw [infinite_mul false hz pos]
    exact Int.natCast_nonneg _
  · rw [(rank_mul fx hz).1]
    have factor := rank_nonneg hx
    rw [rank_of_isFinite fx] at factor
    exact roundRatio_nonneg (Int.mul_nonneg factor pos.le) _

theorem nonneg_of_floor? {x : Binary64} {n : Int} (nonneg : 0 ≤ x) (h : x.floor? = .ok n) : 0 ≤ n := by
  obtain ⟨finite, rfl⟩ := floor?_eq_ok_iff.mp h
  have units := rank_nonneg nonneg
  rw [rank_of_isFinite finite] at units
  have unit : (0 : Int) ≤ unitsPerOne := Int.natCast_nonneg _
  rw [Int.fdiv_eq_ediv_of_nonneg _ unit]
  exact Int.ediv_nonneg units unit

theorem nonneg_of_ceil? {x : Binary64} {n : Int} (nonneg : 0 ≤ x) (h : x.ceil? = .ok n) : 0 ≤ n := by
  obtain ⟨finite, rfl⟩ := ceil?_eq_ok_iff.mp h
  have units := rank_nonneg nonneg
  rw [rank_of_isFinite finite] at units
  have unit : (0 : Int) < unitsPerOne := Int.natCast_pos.mpr unitsPerOne_pos
  rw [Int.fdiv_eq_ediv_of_nonneg _ unit.le]
  have below := Int.ediv_le_of_le_mul (b := 0) unit (a := -x.units) (by omega)
  omega

/-! ### Numbers up to a power of two -/

structure UpTo (x : Binary64) (k : Nat) : Prop where
  nonneg : 0 ≤ x
  rank_le : x.rank ≤ (2 ^ (1074 + k) : Nat)

instance (x : Binary64) (k : Nat) : Decidable (x.UpTo k) :=
  decidable_of_iff (0 ≤ x ∧ x.rank ≤ (2 ^ (1074 + k) : Nat)) ⟨fun h => ⟨h.1, h.2⟩, fun h => ⟨h.1, h.2⟩⟩

namespace UpTo

variable {x y : Binary64} {j k : Nat}

theorem isFinite (h : x.UpTo k) (small : k ≤ 1023) : x.isFinite = true := by
  have low := rank_nonneg h.nonneg
  have high := h.rank_le
  have limit := two_pow_lt_limitUnits small
  exact isFinite_of_rank (ne_nan_of_le h.nonneg).2 (by omega) (by omega)

theorem units (h : x.UpTo k) (small : k ≤ 1023) :
    0 ≤ x.units ∧ x.units ≤ (2 ^ (1074 + k) : Nat) := by
  rw [← rank_of_isFinite (h.isFinite small)]
  exact ⟨rank_nonneg h.nonneg, h.rank_le⟩

theorem mono (h : x.UpTo j) (le : j ≤ k) : x.UpTo k where
  nonneg := h.nonneg
  rank_le := h.rank_le.trans (Int.ofNat_le.mpr (Nat.pow_le_pow_right (by decide) (by omega)))

theorem of_le (h : y.UpTo k) (low : 0 ≤ x) (high : x ≤ y) : x.UpTo k where
  nonneg := low
  rank_le := (rank_le_of_le high).trans h.rank_le

theorem max (high : x.rank ≤ (2 ^ (1074 + k) : Nat)) :
    (Binary64.max 0 x).UpTo k where
  nonneg := zero_le_max x
  rank_le := by
    unfold Binary64.max
    split
    · exact high
    · rw [rank_of_isFinite zero_spec.1, zero_spec.2.1]
      exact Int.natCast_nonneg _

theorem of_rank {n : Int} {d : Nat} (number : x ≠ nan) (rank : x.rank = roundRatio n d)
    (pos : 0 < d) (small : k ≤ 1023) (low : 0 ≤ n) (high : n ≤ (2 ^ (1074 + k) : Nat) * d) :
    x.UpTo k where
  nonneg := (zero_le_iff number).mpr (rank ▸ roundRatio_nonneg low d)
  rank_le := rank ▸ roundRatio_le_two_pow pos small high

theorem mul (hx : x.UpTo j) (hy : y.UpTo k) (small : j + k ≤ 1023) : (x * y).UpTo (j + k) := by
  obtain ⟨lowX, highX⟩ := hx.units (by omega)
  obtain ⟨lowY, highY⟩ := hy.units (by omega)
  obtain ⟨rank, number⟩ := rank_mul (hx.isFinite (by omega)) (hy.isFinite (by omega))
  refine of_rank number rank unitsPerOne_pos small (Int.mul_nonneg lowX lowY) ?_
  have product : (2 ^ (1074 + (j + k)) : Nat) * unitsPerOne = 2 ^ (1074 + j) * 2 ^ (1074 + k) := by
    rw [unitsPerOne_eq, ← pow_add, ← pow_add]
    congr 1
    omega
  calc
    x.units * y.units ≤ (2 ^ (1074 + j) : Nat) * (2 ^ (1074 + k) : Nat) :=
      mul_le_mul highX highY lowY (Int.natCast_nonneg _)
    _ = _ := by exact_mod_cast product.symm

theorem add (hx : x.UpTo k) (hy : y.UpTo k) (small : k + 1 ≤ 1023) : (x + y).UpTo (k + 1) := by
  obtain ⟨lowX, highX⟩ := hx.units (by omega)
  obtain ⟨lowY, highY⟩ := hy.units (by omega)
  obtain ⟨rank, number⟩ := rank_add (hx.isFinite (by omega)) (hy.isFinite (by omega))
  refine of_rank number rank Nat.one_pos small (by omega) ?_
  have double : 2 ^ (1074 + (k + 1)) = 2 * 2 ^ (1074 + k) := by
    rw [← Nat.add_assoc, pow_succ, mul_comm]
  rw [double]
  generalize 2 ^ (1074 + k) = bound at highX highY ⊢
  omega

theorem quotient (low : 0 ≤ x) (hx : x.isFinite = true) (small : k ≤ 1023) (hy : y.isFinite = true)
    (pos : 0 < y.units) (high : x.units * unitsPerOne ≤ (2 ^ (1074 + k) : Nat) * y.units) :
    (x / y).UpTo k := by
  have least := rank_nonneg low
  rw [rank_of_isFinite hx] at least
  obtain ⟨rank, number⟩ := rank_div hx hy pos
  refine of_rank number rank (by omega) small (Int.mul_nonneg least (Int.natCast_nonneg _)) ?_
  rwa [Int.natAbs_of_nonneg pos.le]

theorem div_two_pow (hx : x.UpTo (k + j)) (fx : x.isFinite = true) (small : k ≤ 1023)
    (hy : y.isFinite = true) (power : 2 ^ j * (unitsPerOne : Int) ≤ y.units) : (x / y).UpTo k := by
  have high := hx.rank_le
  rw [rank_of_isFinite fx, ← Nat.add_assoc, pow_add] at high
  have unit := Int.natCast_pos.mpr unitsPerOne_pos
  have pos : 0 < y.units := (Int.mul_pos (by positivity) unit).trans_le power
  refine quotient hx.nonneg fx small hy pos ?_
  generalize 2 ^ (1074 + k) = bound at high ⊢
  calc
    x.units * unitsPerOne ≤ ((bound * 2 ^ j : Nat) : Int) * unitsPerOne :=
      Int.mul_le_mul_of_nonneg_right high unit.le
    _ = bound * (2 ^ j * unitsPerOne) := by push_cast; ring
    _ ≤ bound * y.units := Int.mul_le_mul_of_nonneg_left power (Int.natCast_nonneg _)

theorem div (hx : x.UpTo k) (small : k ≤ 1023) (hy : y.isFinite = true)
    (one : (unitsPerOne : Int) ≤ y.units) : (x / y).UpTo k :=
  hx.div_two_pow (j := 0) (hx.isFinite small) small hy (by rwa [pow_zero, one_mul])

theorem ofRatio {n : Int} {d : Nat} (pos : 0 < d) (small : k ≤ 1023) (low : 0 ≤ n)
    (high : n ≤ (2 ^ k : Nat)) : (ofRatio n d).UpTo k := by
  obtain ⟨rank, number⟩ := rank_ofRatio n pos
  have unit : (0 : Int) ≤ unitsPerOne := Int.natCast_nonneg _
  refine of_rank number rank pos small (Int.mul_nonneg low unit) ?_
  have scaled : (2 ^ k : Nat) * unitsPerOne = 2 ^ (1074 + k) := by
    rw [unitsPerOne_eq, ← pow_add, add_comm]
  calc
    n * unitsPerOne ≤ (2 ^ k : Nat) * unitsPerOne := Int.mul_le_mul_of_nonneg_right high unit
    _ = (2 ^ (1074 + k) : Nat) := by exact_mod_cast scaled
    _ ≤ _ := le_mul_of_one_le_right (Int.natCast_nonneg _) (by omega)

theorem ceil (h : x.UpTo k) (small : k ≤ 1023) :
    ∃ n, x.ceil? = .ok n ∧ 0 ≤ n ∧ n ≤ (2 ^ k : Nat) := by
  obtain ⟨low, high⟩ := h.units small
  have unit : (0 : Int) < unitsPerOne := Int.natCast_pos.mpr unitsPerOne_pos
  refine ⟨-Int.fdiv (-x.units) unitsPerOne, ceil?_eq_ok_iff.mpr ⟨h.isFinite small, rfl⟩, ?_⟩
  have scaled : 2 ^ (1074 + k) = 2 ^ k * unitsPerOne := by
    rw [unitsPerOne_eq, ← pow_add, add_comm]
  rw [scaled, Nat.cast_mul] at high
  rw [Int.fdiv_eq_ediv_of_nonneg _ unit.le]
  constructor
  · have below := Int.ediv_le_of_le_mul (a := -x.units) (b := 0) unit (by omega)
    omega
  · have least := (Int.le_ediv_iff_mul_le (a := -((2 ^ k : Nat) : Int)) (b := -x.units) unit).mpr
      (by rw [Int.neg_mul]; omega)
    omega

end UpTo

/-! ### Rounding to places -/

theorem exists_roundHalfUp_of_isFinite {x : Binary64} {places : Nat}
    (factor : (decimalFactor places).isFinite = true) (low : 0 ≤ x.scaledUp places)
    (finite : (x.scaledUp places).isFinite = true) :
    ∃ a, x.roundHalfUp places = .ok a ∧ 0 ≤ a ∧ a ≤ x.scaledUp places := by
  have pos := decimalScale_pos places
  have unit : (0 : Int) < unitsPerOne := Int.natCast_pos.mpr unitsPerOne_pos
  have units := rank_nonneg low
  rw [rank_of_isFinite finite] at units
  have floorOk := floor?_eq_ok_iff.mpr ⟨finite, rfl⟩
  rw [Int.fdiv_eq_ediv_of_nonneg _ unit.le] at floorOk
  generalize floorEq : (x.scaledUp places).units / (unitsPerOne : Int) = floor at floorOk
  have floorLow : 0 ≤ floor := floorEq ▸ Int.ediv_nonneg units unit.le
  have floorHigh : floor * unitsPerOne ≤ (x.scaledUp places).units :=
    floorEq ▸ Int.ediv_mul_le _ unit.ne'
  obtain ⟨rank, number⟩ := rank_ofRatio floor pos
  have back : ofRatio floor (decimalScale places) ≤ x.scaledUp places := by
    rw [le_iff_rank number (ne_nan_of_isFinite finite), rank, rank_of_isFinite finite,
      ← roundRatio_units finite pos]
    refine roundRatio_le_roundRatio pos pos (Int.mul_le_mul_of_nonneg_right ?_ (Int.natCast_nonneg _))
    exact floorHigh.trans (le_mul_of_one_le_right units (by omega))
  have backLow : 0 ≤ ofRatio floor (decimalScale places) :=
    (zero_le_iff number).mpr (rank ▸ roundRatio_nonneg (Int.mul_nonneg floorLow unit.le) _)
  have backFinite := isFinite_of_le_of_le zero_spec.1 finite backLow back
  exact ⟨_, roundHalfUp_eq_ok_iff.mpr ⟨factor, backFinite, floor, floorOk, rfl⟩, backLow, back⟩

theorem half_spec : (0.5 : Binary64).UpTo 0 := by decide +kernel

theorem UpTo.scaledUp {x : Binary64} {k j places : Nat} (h : x.UpTo k)
    (scale : decimalScale places ≤ 2 ^ j) (small : k + j + 1 ≤ 1023) :
    (x.scaledUp places).UpTo (k + j + 1) := by
  have factor : (decimalFactor places).UpTo j :=
    UpTo.ofRatio Nat.one_pos (by omega) (Int.natCast_nonneg _) (Int.ofNat_le.mpr scale)
  exact (h.mul factor (by omega)).add (half_spec.mono (by omega)) small

theorem UpTo.roundHalfUp {x : Binary64} {k j places : Nat} (h : x.UpTo k)
    (scale : decimalScale places ≤ 2 ^ j) (small : k + j + 1 ≤ 1023) :
    ∃ a, x.roundHalfUp places = .ok a ∧ a.UpTo (k + j + 1) := by
  have factor : (decimalFactor places).UpTo j :=
    UpTo.ofRatio Nat.one_pos (by omega) (Int.natCast_nonneg _) (Int.ofNat_le.mpr scale)
  have scaled := h.scaledUp scale small
  obtain ⟨a, rounded, low, high⟩ := exists_roundHalfUp_of_isFinite (factor.isFinite (by omega))
    scaled.nonneg (scaled.isFinite small)
  exact ⟨a, rounded, scaled.of_le low high⟩

theorem scaledUp_nonneg {x : Binary64} {places : Nat}
    (factor : (decimalFactor places).isFinite = true) (h : 0 ≤ x) : 0 ≤ x.scaledUp places :=
  add_nonneg (mul_nonneg h factor (decimalFactor_pos factor)) half_spec.nonneg

/-- A number that is not negative has a rounding, unless scaling it up goes beyond all doubles. -/
theorem roundHalfUp_of_nonneg {x : Binary64} {places : Nat}
    (factor : (decimalFactor places).isFinite = true) (h : 0 ≤ x) :
    (∃ a, x.roundHalfUp places = .ok a ∧ 0 ≤ a) ∨
      x.roundHalfUp places = .error .infinityToInteger := by
  have low := scaledUp_nonneg factor h
  obtain infinite | finite := nonneg_cases low
  · refine .inr ?_
    change ((decimalFactor places).refuseInfinite .integerTooLarge >>= fun factor =>
      (x * factor + 0.5).floor? >>= fun floor => ofRatio? floor (decimalScale places)) = _
    rw [refuseInfinite_of_isFinite _ factor]
    change ((x.scaledUp places).floor? >>= fun floor => ofRatio? floor (decimalScale places)) = _
    rw [infinite]
    rfl
  · obtain ⟨a, rounded, nonneg, -⟩ := exists_roundHalfUp_of_isFinite factor low finite
    exact .inl ⟨a, rounded, nonneg⟩

theorem nonneg_of_roundHalfUp {x a : Binary64} {places : Nat} (nonneg : 0 ≤ x)
    (h : x.roundHalfUp places = .ok a) : 0 ≤ a := by
  obtain ⟨factor, -, -⟩ := roundHalfUp_eq_ok_iff.mp h
  obtain ⟨b, rounded, low⟩ | failed := roundHalfUp_of_nonneg factor nonneg
  · rwa [Except.ok.inj (h.symm.trans rounded)]
  · nomatch h.symm.trans failed

theorem isFinite_of_roundHalfUp {x a : Binary64} {places : Nat} (h : x.roundHalfUp places = .ok a) :
    a.isFinite = true :=
  (roundHalfUp_eq_ok_iff.mp h).2.1

end Binary64
end Footprint
