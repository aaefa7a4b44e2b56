import Footprint.Proofs.Binary64.Representable
import Footprint.Proofs.Decimal.Shortest

/-! The places of a double, and rounding to them. A count that no double has goes to the multiple of its last
place that it is nearest to, midway to the even one. -/
namespace Footprint.Binary64

structure Places (u : Int) (p : Nat) : Prop where
  dvd : (2 ^ p : Int) ∣ u
  few : |u| < 2 ^ 53 * 2 ^ p
  normal : 2 ^ 52 * 2 ^ p ≤ |u| ∨ p = 0
  power_le : p ≤ 2045

theorem Places.exists_eq {u : Int} {p : Nat} (h : Places u p) :
    ∃ k, u = k * 2 ^ p ∧ |k| < 2 ^ 53 ∧ (2 ^ 52 ≤ |k| ∨ p = 0) := by
  have unit : (0 : Int) < 2 ^ p := by positivity
  obtain ⟨⟨k, rfl⟩, few, normal, -⟩ := h
  rw [abs_mul, abs_of_pos unit, mul_comm] at few normal
  exact ⟨k, mul_comm _ _, lt_of_mul_lt_mul_right few unit.le,
    normal.imp_left fun normal => le_of_mul_le_mul_right (by linarith) unit⟩

theorem Places.representable {u : Int} {p : Nat} (h : Places u p) : Representable u := by
  obtain ⟨k, rfl, few, -⟩ := h.exists_eq
  exact .of_abs_lt few h.power_le

theorem exists_places {x : Binary64} (finite : x.isFinite = true) : ∃ p, Places x.units p := by
  have magnitudes := units_natAbs x
  cases x with
  | nan | infinite => cases finite
  | finite s m p fits =>
    rw [magnitude, Nat.shiftLeft_eq] at magnitudes
    generalize Binary64.units _ = u at magnitudes ⊢
    have value : |u| = m * 2 ^ p := by
      rw [Int.abs_eq_natAbs, magnitudes]
      norm_cast
    have unit : (0 : Int) < 2 ^ p := by positivity
    have significand : m < 2 ^ 53 := fits.significand_lt
    refine ⟨p, (dvd_abs _ _).mp ⟨m, by rw [value, mul_comm]⟩, ?_, ?_, fits.power_le⟩
    · rw [value]
      exact Int.mul_lt_mul_of_pos_right (by exact_mod_cast significand) unit
    · rw [value]
      exact fits.normal.imp_left fun normal =>
        Int.mul_le_mul_of_nonneg_right (by exact_mod_cast normal) unit.le

theorem representable_units {x : Binary64} (finite : x.isFinite = true) : Representable x.units := by
  obtain ⟨p, places⟩ := exists_places finite
  exact places.representable

/-! ### The nearest multiple of the last place -/

theorem roundRatio_neg (w : Int) (d : Nat) : roundRatio (-w) d = -roundRatio w d := by
  unfold roundRatio
  rw [Int.natAbs_neg]
  obtain neg | rfl | pos := Int.lt_trichotomy w 0
  · rw [if_pos neg, if_neg (by omega), neg_neg]
  · simp [cappedUnits_zero]
  · rw [if_pos (by omega), if_neg (by omega)]

section

variable {w k : Int} {p : Nat}

theorem roundRatio_of_nonneg (nonneg : 0 ≤ w) (low : p = 0 ∨ 2 ^ 52 * 2 ^ p ≤ w) (high : w < 2 ^ 53 * 2 ^ p)
    (target : Representable (k * 2 ^ p)) (near : |2 * w - 2 * k * 2 ^ p| ≤ 2 ^ p)
    (ties : |2 * w - 2 * k * 2 ^ p| = 2 ^ p → k % 2 = 0) : roundRatio w 1 = k * 2 ^ p := by
  have unit : (0 : Int) < 2 ^ p := by positivity
  obtain ⟨below, above⟩ := abs_le.mp near
  have least : -1 ≤ 2 * k := le_of_mul_le_mul_right (by linarith) unit
  obtain ⟨n, rfl⟩ := Int.eq_ofNat_of_zero_le nonneg
  obtain ⟨m, rfl⟩ := Int.eq_ofNat_of_zero_le (a := k) (by omega)
  have place : unitPower n 1 = p := by
    refine unitPower_eq Nat.one_pos (low.imp_right fun low => ?_) ?_
    · rw [pow_add, mul_one]
      exact_mod_cast low
    · rw [pow_add, mul_one]
      exact_mod_cast high
  have significand : nearestEven n (2 ^ p) = m := by
    refine nearestEven_eq (by positivity) ?_ ?_ fun tie => ?_
    · zify
      linarith
    · zify
      linarith
    · zify at tie ⊢
      refine ties ((abs_eq unit.le).mpr ?_)
      obtain low | high := tie
      · right
        linarith
      · left
        linarith
  have rounded : roundedUnits n 1 = m * 2 ^ p := by
    rw [roundedUnits, roundedSignificand, place, Nat.one_shiftLeft, significand, Nat.shiftLeft_eq]
  have size : (m * 2 ^ p : Int).natAbs = m * 2 ^ p := by
    rw [Int.natAbs_mul, Int.natAbs_pow]
    rfl
  have bound := target.natAbs_lt.le
  rw [size] at bound
  rw [roundRatio, if_neg (by omega), Int.natAbs_natCast, cappedUnits, rounded, Nat.min_eq_left bound,
    Nat.cast_mul, Nat.cast_pow, Nat.cast_ofNat]

/-- A count is rounded to the multiple of its last place that it is nearest to, midway to the even one. -/
theorem roundRatio_eq_mul (low : p = 0 ∨ 2 ^ 52 * 2 ^ p ≤ |w|) (high : |w| < 2 ^ 53 * 2 ^ p)
    (target : Representable (k * 2 ^ p)) (near : |2 * w - 2 * k * 2 ^ p| ≤ 2 ^ p)
    (ties : |2 * w - 2 * k * 2 ^ p| = 2 ^ p → k % 2 = 0) : roundRatio w 1 = k * 2 ^ p := by
  obtain nonneg | neg := le_or_gt 0 w
  · rw [abs_of_nonneg nonneg] at low high
    exact roundRatio_of_nonneg nonneg low high target near ties
  · rw [abs_of_neg neg] at low high
    have mirrored : |2 * -w - 2 * -k * 2 ^ p| = |2 * w - 2 * k * 2 ^ p| := by
      rw [← abs_neg]
      ring_nf
    have opposite := target.neg
    rw [← neg_mul] at opposite
    rw [← mirrored] at near ties
    have rounded := roundRatio_of_nonneg (by omega) low high opposite near fun tie => by
      have := ties tie
      omega
    rw [roundRatio_neg] at rounded
    linarith

end

end Footprint.Binary64
