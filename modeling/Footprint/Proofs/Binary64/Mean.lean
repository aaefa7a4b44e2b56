import Footprint.Proofs.Binary64.Representable

/-! Sums and means of doubles between two bounds. Every partial sum is rounded, so a mean may leave the
bounds of its terms in general. It does not when the multiples of both bounds are doubles themselves:
the rounding of each partial sum then stays between two of them. -/
namespace Footprint.Binary64

structure Steps (u : Int) (m e : Nat) : Prop where
  value : u = m * 2 ^ e
  power_le : e ≤ 2045

namespace Steps

variable {u : Int} {m e : Nat}

theorem nsmul (h : Steps u m e) (k : Nat) : Steps (k * u) (k * m) e where
  value := by rw [h.value]; push_cast; ring
  power_le := h.power_le

theorem representable (h : Steps u m e) (fits : m < 2 ^ 53) : Representable u := by
  refine ⟨m, e, fits, h.power_le, ?_⟩
  rw [h.value, Int.natAbs_mul, Int.natAbs_natCast, Int.natAbs_pow]
  rfl

end Steps

theorem steps_natCast (n : Nat) : Steps (n * unitsPerOne) n 1074 where
  value := by
    unfold unitsPerOne
    generalize 1074 = e
    rw [Nat.one_shiftLeft, Nat.cast_pow, Nat.cast_ofNat]
  power_le := by omega

-- Stated of the two functions: applied to a number, the check would go on to compute its rounding.
theorem natCast_eq : (Nat.cast : Nat → Binary64) = fun n : Nat => ofInt n := rfl

theorem natCast_eq_ofInt (n : Nat) : (n : Binary64) = ofInt n := congrFun natCast_eq n

theorem units_natCast {n : Nat} (fits : n < 2 ^ 53) :
    (n : Binary64).isFinite = true ∧ (n : Binary64).units = n * unitsPerOne := by
  rw [natCast_eq_ofInt]
  obtain ⟨rank, ne⟩ := rank_ofInt n
  have exact := (steps_natCast n).representable fits
  exact exact.units_eq ne (rank.trans exact.roundRatio_eq)

section

variable {lo hi : Binary64} {a b e : Nat}

theorem add_between (low : Steps lo.units a e) (high : Steps hi.units b e)
    (hlo : lo.isFinite = true) (hhi : hi.isFinite = true) (order : a ≤ b) {k : Nat}
    (few : (k + 1) * b < 2 ^ 53) {s x : Binary64} (hs : s.isFinite = true)
    (left : k * lo.units ≤ s.units) (right : s.units ≤ k * hi.units) (hx : lo ≤ x ∧ x ≤ hi) :
    (s + x).isFinite = true ∧ (k + 1) * lo.units ≤ (s + x).units ∧
      (s + x).units ≤ (k + 1) * hi.units := by
  have fx := isFinite_of_le_of_le hlo hhi hx.1 hx.2
  have below := rank_le_of_le hx.1
  have above := rank_le_of_le hx.2
  rw [rank_of_isFinite fx, rank_of_isFinite hlo] at below
  rw [rank_of_isFinite fx, rank_of_isFinite hhi] at above
  have lows := low.nsmul (k + 1)
  have highs := high.nsmul (k + 1)
  have fits : (k + 1) * a < 2 ^ 53 := (Nat.mul_le_mul_left _ order).trans_lt few
  obtain ⟨rank, ne⟩ := rank_add hs fx
  push_cast at lows highs
  have leastSum : (k + 1) * lo.units * (1 : Nat) ≤ s.units + x.units := by
    rw [Nat.cast_one, mul_one, add_one_mul]
    exact Int.add_le_add left below
  have mostSum : s.units + x.units ≤ (k + 1) * hi.units * (1 : Nat) := by
    rw [Nat.cast_one, mul_one, add_one_mul]
    exact Int.add_le_add right above
  exact (lows.representable fits).units_between (highs.representable few) ne Nat.one_pos rank leastSum
    mostSum

theorem sum_between (low : Steps lo.units a e) (high : Steps hi.units b e)
    (hlo : lo.isFinite = true) (hhi : hi.isFinite = true) (order : a ≤ b) (terms : List Binary64)
    (few : terms.length * b < 2 ^ 53) (bounded : ∀ x ∈ terms, lo ≤ x ∧ x ≤ hi) :
    (sum terms).isFinite = true ∧ terms.length * lo.units ≤ (sum terms).units ∧
      (sum terms).units ≤ terms.length * hi.units := by
  induction terms using List.reverseRecOn with
  | nil =>
    rw [sum_nil, zero_spec.2.1, List.length_nil, Nat.cast_zero, zero_mul, zero_mul]
    exact ⟨zero_spec.1, le_rfl, le_rfl⟩
  | append_singleton terms x ih =>
    rw [List.length_append, List.length_singleton] at few ⊢
    have fewer : terms.length * b < 2 ^ 53 := (Nat.mul_le_mul_right b (Nat.le_succ _)).trans_lt few
    obtain ⟨finite, left, right⟩ := ih fewer fun y hy => bounded y (List.mem_append_left _ hy)
    rw [sum_append_singleton, Nat.cast_add, Nat.cast_one]
    exact add_between low high hlo hhi order few finite left right (bounded x (by simp))

theorem mean_between (low : Steps lo.units a e) (high : Steps hi.units b e)
    (hlo : lo.isFinite = true) (hhi : hi.isFinite = true) (pos : 0 < a) (order : a ≤ b)
    {terms : List Binary64} (nonempty : terms ≠ []) (few : terms.length * b < 2 ^ 53)
    (bounded : ∀ x ∈ terms, lo ≤ x ∧ x ≤ hi) :
    lo ≤ sum terms / (terms.length : Binary64) ∧ sum terms / (terms.length : Binary64) ≤ hi := by
  have count : 0 < terms.length := List.length_pos_iff.mpr nonempty
  have fits : terms.length < 2 ^ 53 := (Nat.le_mul_of_pos_right _ (pos.trans_le order)).trans_lt few
  have single : b < 2 ^ 53 := (Nat.le_mul_of_pos_left b count).trans_lt few
  obtain ⟨finite, left, right⟩ := sum_between low high hlo hhi order terms few bounded
  obtain ⟨countFinite, countUnits⟩ := units_natCast fits
  have unit : (0 : Int) < unitsPerOne := Int.natCast_pos.mpr unitsPerOne_pos
  have divisor : 0 < (terms.length : Binary64).units := by
    rw [countUnits]
    exact Int.mul_pos (Int.natCast_pos.mpr count) unit
  obtain ⟨rank, ne⟩ := rank_div finite countFinite divisor
  have scale : ((terms.length : Binary64).units.natAbs : Int) = terms.length * unitsPerOne := by
    rw [Int.natAbs_of_nonneg divisor.le, countUnits]
  have cross (bound : Int) : bound * ((terms.length : Binary64).units.natAbs : Int) =
      terms.length * bound * unitsPerOne := by
    rw [scale]
    ring
  have scaled := Int.natAbs_pos.mpr divisor.ne'
  have least := (low.representable (order.trans_lt single)).le_roundRatio scaled
    ((cross lo.units).trans_le (Int.mul_le_mul_of_nonneg_right left unit.le))
  have most := (high.representable single).roundRatio_le scaled
    ((Int.mul_le_mul_of_nonneg_right right unit.le).trans (cross hi.units).ge)
  rw [le_iff_rank (ne_nan_of_isFinite hlo) ne, le_iff_rank ne (ne_nan_of_isFinite hhi), rank,
    rank_of_isFinite hlo, rank_of_isFinite hhi]
  exact ⟨least, most⟩

end

/-! ### Terms without an upper bound

Without one a sum may be infinite, and there is no count of units to compare. It is compared with the sum
of as many copies of the bound. -/

theorem sum_nonneg {terms : List Binary64} (nonneg : ∀ x ∈ terms, 0 ≤ x) : 0 ≤ sum terms := by
  induction terms using List.reverseRecOn with
  | nil => exact zero_le_zero
  | append_singleton terms x ih =>
    rw [sum_append_singleton]
    exact add_nonneg (ih fun y hy => nonneg y (List.mem_append_left _ hy)) (nonneg x (by simp))

theorem sum_replicate_le {lo : Binary64} (nonneg : 0 ≤ lo) {terms : List Binary64}
    (bounded : ∀ x ∈ terms, lo ≤ x) : sum (List.replicate terms.length lo) ≤ sum terms := by
  induction terms using List.reverseRecOn with
  | nil => exact zero_le_zero
  | append_singleton terms x ih =>
    have copies : 0 ≤ sum (List.replicate terms.length lo) :=
      sum_nonneg fun y hy => (List.eq_of_mem_replicate hy).symm ▸ nonneg
    rw [List.length_append, List.length_singleton, List.replicate_succ', sum_append_singleton,
      sum_append_singleton]
    exact add_le_add_of_nonneg copies nonneg (ih fun y hy => bounded y (List.mem_append_left _ hy))
      (bounded x (by simp))

theorem le_mean {lo : Binary64} {a e : Nat} (low : Steps lo.units a e) (hlo : lo.isFinite = true)
    (nonneg : 0 ≤ lo) (pos : 0 < a) {terms : List Binary64} (nonempty : terms ≠ [])
    (few : terms.length * a < 2 ^ 53) (bounded : ∀ x ∈ terms, lo ≤ x) :
    lo ≤ sum terms / (terms.length : Binary64) := by
  have count : 0 < terms.length := List.length_pos_iff.mpr nonempty
  have fits : terms.length < 2 ^ 53 := (Nat.le_mul_of_pos_right _ pos).trans_lt few
  obtain ⟨finite, units⟩ := units_natCast fits
  have divisor : 0 < (terms.length : Binary64).units := by
    rw [units]
    exact Int.mul_pos (Int.natCast_pos.mpr count) (Int.natCast_pos.mpr unitsPerOne_pos)
  have same : ∀ x ∈ List.replicate terms.length lo, lo ≤ x ∧ x ≤ lo := by
    intro x hx
    rw [List.eq_of_mem_replicate hx]
    exact ⟨le_refl' (ne_nan_of_isFinite hlo), le_refl' (ne_nan_of_isFinite hlo)⟩
  have some : List.replicate terms.length lo ≠ [] := by simpa using nonempty
  have copies := (mean_between low low hlo hlo pos le_rfl some (by simpa using few) same).1
  rw [List.length_replicate] at copies
  exact le_trans' copies (div_le_div_right (sum_replicate_le nonneg bounded) finite divisor)

end Footprint.Binary64
