import Footprint.Proofs.Binary64.Arithmetic
import Mathlib.Tactic.NormNum

/-! Signed counts of units that a double has. An operation whose exact result is one of them returns it, and a
result between two of them is rounded to one between these two. -/
namespace Footprint.Binary64

def Representable (u : Int) : Prop := ∃ m e, m < 2 ^ 53 ∧ e ≤ 2045 ∧ u.natAbs = m * 2 ^ e

namespace Representable

variable {u w k : Int} {e : Nat}

theorem natAbs_lt (h : Representable u) : u.natAbs < limitUnits := by
  obtain ⟨m, e, fits, small, value⟩ := h
  exact value ▸ mul_two_pow_lt_limitUnits fits small

theorem neg (h : Representable u) : Representable (-u) := by
  obtain ⟨m, e, fits, small, value⟩ := h
  exact ⟨m, e, fits, small, by rw [Int.natAbs_neg, value]⟩

theorem roundRatio_mul (h : Representable u) {d : Nat} (pos : 0 < d) : roundRatio (u * d) d = u := by
  have range := h.natAbs_lt.le
  obtain ⟨m, e, fits, -, value⟩ := h
  exact Footprint.roundRatio_mul fits value range pos

theorem roundRatio_eq (h : Representable u) : roundRatio u 1 = u := by
  have exact := h.roundRatio_mul Nat.one_pos
  rwa [Nat.cast_one, mul_one] at exact

theorem le_roundRatio (h : Representable u) {d : Nat} (pos : 0 < d) (le : u * d ≤ w) :
    u ≤ roundRatio w d := by
  rw [← h.roundRatio_mul pos]
  exact roundRatio_le_roundRatio pos pos (Int.mul_le_mul_of_nonneg_right le (Int.natCast_nonneg d))

theorem roundRatio_le (h : Representable u) {d : Nat} (pos : 0 < d) (le : w ≤ u * d) :
    roundRatio w d ≤ u := by
  rw [← h.roundRatio_mul pos]
  exact roundRatio_le_roundRatio pos pos (Int.mul_le_mul_of_nonneg_right le (Int.natCast_nonneg d))

theorem units_eq (h : Representable u) {x : Binary64} (number : x ≠ nan) (rank : x.rank = u) :
    x.isFinite = true ∧ x.units = u := by
  have bound := h.natAbs_lt
  have finite := isFinite_of_rank number (by omega) (by omega)
  exact ⟨finite, (rank_of_isFinite finite).symm.trans rank⟩

theorem units_between (h : Representable u) {v : Int} (k : Representable v) {x : Binary64} (number : x ≠ nan)
    {d : Nat} (pos : 0 < d) (rank : x.rank = roundRatio w d) (low : u * d ≤ w) (high : w ≤ v * d) :
    x.isFinite = true ∧ u ≤ x.units ∧ x.units ≤ v := by
  have least := h.natAbs_lt
  have most := k.natAbs_lt
  have below := h.le_roundRatio pos low
  have above := k.roundRatio_le pos high
  rw [← rank] at below above
  have finite := isFinite_of_rank number (by omega) (by omega)
  rw [rank_of_isFinite finite] at below above
  exact ⟨finite, below, above⟩

theorem of_abs_lt (few : |k| < 2 ^ 53) (small : e ≤ 2045) : Representable (k * 2 ^ e) := by
  rw [Int.abs_eq_natAbs] at few
  refine ⟨k.natAbs, e, by exact_mod_cast few, small, ?_⟩
  rw [Int.natAbs_mul, Int.natAbs_pow]
  rfl

theorem of_abs_le (few : |k| ≤ 2 ^ 53) (small : e ≤ 2044) : Representable (k * 2 ^ e) := by
  obtain full | partly := few.eq_or_lt
  · obtain ⟨half, rfl⟩ : ∃ half, k = half * 2 := by
      obtain rfl | rfl := (abs_eq (by norm_num)).mp full
      · exact ⟨2 ^ 52, by norm_num⟩
      · exact ⟨-2 ^ 52, by norm_num⟩
    rw [mul_assoc, ← pow_succ']
    refine of_abs_lt ?_ (by omega)
    rw [abs_mul, abs_of_pos (by norm_num : (0 : Int) < 2)] at full
    omega
  · exact of_abs_lt partly (by omega)

theorem of_dvd (dvd : (2 ^ e : Int) ∣ u) (few : |u| ≤ 2 ^ 53 * 2 ^ e) (small : e ≤ 2044) :
    Representable u := by
  obtain ⟨k, rfl⟩ := dvd
  have unit : (0 : Int) < 2 ^ e := by positivity
  rw [abs_mul, abs_of_pos unit, mul_comm] at few
  rw [mul_comm]
  exact of_abs_le (le_of_mul_le_mul_right few unit) small

end Representable

end Footprint.Binary64
