import Footprint.Proofs.Binary64.Range

/-! Numbers that are not negative and may grow. Sums, products and quotients grow with them, as long as the
factors are positive, and so does what is rounded from them. -/
namespace Footprint.Binary64

structure Within (x y : Binary64) : Prop where
  nonneg : 0 ≤ x
  le : x ≤ y

variable {x y z v w : Binary64}

theorem Within.refl (h : 0 ≤ x) : Within x x := ⟨h, le_refl' (ne_nan_of_le h).2⟩

theorem Within.add (h : Within x y) (k : Within v w) : Within (x + v) (y + w) :=
  ⟨add_nonneg h.nonneg k.nonneg, add_le_add_of_nonneg h.nonneg k.nonneg h.le k.le⟩

theorem le_add (hx : 0 ≤ x) (hy : 0 ≤ y) : x ≤ x + y ∧ y ≤ x + y := by
  have number := add_ne_nan_of_nonneg hx hy
  obtain rfl | fx := nonneg_cases hx
  · rw [infinite_add number]
    exact ⟨le_infinite (by simp), le_infinite (ne_nan_of_le hy).2⟩
  obtain rfl | fy := nonneg_cases hy
  · rw [add_infinite number]
    exact ⟨le_infinite (ne_nan_of_le hx).2, le_infinite (by simp)⟩
  have left := rank_nonneg hx
  have right := rank_nonneg hy
  rw [rank_of_isFinite fx] at left
  rw [rank_of_isFinite fy] at right
  obtain ⟨rank, -⟩ := rank_add fx fy
  have below {z : Binary64} (fz : z.isFinite = true) (h : z.units ≤ x.units + y.units) : z ≤ x + y := by
    have same := roundRatio_units fz Nat.one_pos
    rw [le_iff_rank (ne_nan_of_isFinite fz) number, rank, rank_of_isFinite fz]
    refine same.ge.trans (roundRatio_le_roundRatio Nat.one_pos Nat.one_pos ?_)
    rwa [Nat.cast_one, mul_one, mul_one, mul_one]
  exact ⟨below fx (by omega), below fy (by omega)⟩

theorem Within.add_right (h : Within x y) (hw : 0 ≤ w) : Within x (y + w) :=
  ⟨h.nonneg, le_trans' h.le (le_add (le_trans' h.nonneg h.le) hw).1⟩

theorem Within.addIf_right (h : Within x y) (hw : 0 ≤ w) (later : Bool) :
    Within x (if later then y + w else y) := by
  cases later
  · exact h
  · exact h.add_right hw

theorem Within.addIf (h : Within x y) (hw : 0 ≤ w) {once later : Bool} (more : once = true → later = true) :
    Within (if once then x + w else x) (if later then y + w else y) := by
  cases once
  · exact h.addIf_right hw later
  · rw [more rfl]
    exact h.add (.refl hw)

/-! ### Factors -/

structure Positive (z : Binary64) : Prop where
  isFinite : z.isFinite = true
  units_pos : 0 < z.units

instance (z : Binary64) : Decidable z.Positive :=
  decidable_of_iff (z.isFinite = true ∧ 0 < z.units) ⟨fun h => ⟨h.1, h.2⟩, fun h => ⟨h.1, h.2⟩⟩

theorem Positive.of_le (hx : x.Positive) (h : x ≤ y) (hy : y.isFinite = true) : y.Positive where
  isFinite := hy
  units_pos := by
    have order := rank_le_of_le h
    rw [rank_of_isFinite hx.isFinite, rank_of_isFinite hy] at order
    exact hx.units_pos.trans_le order

theorem div_nonneg (hx : 0 ≤ x) (hz : z.Positive) : 0 ≤ x / z := by
  have number := div_ne_nan (ne_nan_of_le hx).2 hz.isFinite hz.units_pos
  rw [zero_le_iff number]
  obtain rfl | finite := nonneg_cases hx
  · rw [infinite_div false hz.isFinite hz.units_pos]
    exact Int.natCast_nonneg _
  · have nonneg := rank_nonneg hx
    rw [rank_of_isFinite finite] at nonneg
    rw [(rank_div finite hz.isFinite hz.units_pos).1]
    exact roundRatio_nonneg (Int.mul_nonneg nonneg (Int.natCast_nonneg _)) _

theorem Within.mul_right (h : Within x y) (hz : z.Positive) : Within (x * z) (y * z) where
  nonneg := mul_nonneg h.nonneg hz.isFinite hz.units_pos
  le := mul_le_mul_right h.le hz.isFinite hz.units_pos

theorem Within.div_right (h : Within x y) (hz : z.Positive) : Within (x / z) (y / z) where
  nonneg := div_nonneg h.nonneg hz
  le := div_le_div_right h.le hz.isFinite hz.units_pos

theorem Within.mul (h : Within x y) (hv : v.Positive) (k : v ≤ w) (hw : w.isFinite = true) :
    Within (x * v) (y * w) := by
  have positive := hv.of_le k hw
  refine ⟨(h.mul_right hv).nonneg, le_trans' (h.mul_right hv).le ?_⟩
  obtain rfl | finite := nonneg_cases (le_trans' h.nonneg h.le)
  · rw [infinite_mul false hv.isFinite hv.units_pos, infinite_mul false hw positive.units_pos]
    exact le_refl' nofun
  · obtain ⟨rank, number⟩ := rank_mul finite hv.isFinite
    obtain ⟨rank', number'⟩ := rank_mul finite hw
    have nonneg := rank_nonneg (le_trans' h.nonneg h.le)
    have order := rank_le_of_le k
    rw [rank_of_isFinite finite] at nonneg
    rw [rank_of_isFinite hv.isFinite, rank_of_isFinite hw] at order
    rw [le_iff_rank number number', rank, rank']
    refine roundRatio_le_roundRatio unitsPerOne_pos unitsPerOne_pos ?_
    exact Int.mul_le_mul_of_nonneg_right (Int.mul_le_mul_of_nonneg_left order nonneg)
      (Int.natCast_nonneg _)

theorem mul_le_mul_of_isFinite (hx : 0 ≤ x) (h : x ≤ y) (hv : 0 ≤ v) (k : v ≤ w)
    (fy : y.isFinite = true) (fw : w.isFinite = true) : x * v ≤ y * w := by
  have fx := isFinite_of_le_of_le zero_spec.1 fy hx h
  have fv := isFinite_of_le_of_le zero_spec.1 fw hv k
  have low := rank_nonneg hv
  have nonneg := rank_nonneg (le_trans' hx h)
  have left := rank_le_of_le h
  have right := rank_le_of_le k
  rw [rank_of_isFinite fv] at low right
  rw [rank_of_isFinite fy] at nonneg left
  rw [rank_of_isFinite fx] at left
  rw [rank_of_isFinite fw] at right
  obtain ⟨rank, number⟩ := rank_mul fx fv
  obtain ⟨rank', number'⟩ := rank_mul fy fw
  rw [le_iff_rank number number', rank, rank']
  refine roundRatio_le_roundRatio unitsPerOne_pos unitsPerOne_pos ?_
  exact Int.mul_le_mul_of_nonneg_right (mul_le_mul left right low nonneg) (Int.natCast_nonneg _)

/-! ### Rounding -/

theorem Within.max_zero (h : x ≤ y) : Within (Binary64.max 0 x) (Binary64.max 0 y) := by
  refine ⟨zero_le_max x, ?_⟩
  obtain ⟨hx, hy⟩ := ne_nan_of_le h
  have hz := ne_nan_of_isFinite zero_spec.1
  unfold Binary64.max
  by_cases above : 0 < x
  · have later := (lt_iff_rank hz hy).mpr (((lt_iff_rank hz hx).mp above).trans_le (rank_le_of_le h))
    rwa [if_pos above, if_pos later]
  · rw [if_neg above]
    split
    · next later => exact le_of_lt' later
    · exact zero_le_zero

theorem Within.roundHalfUp {a b : Binary64} {places : Nat} (h : Within x y)
    (hx : x.roundHalfUp places = .ok a) (hy : y.roundHalfUp places = .ok b) : Within a b where
  nonneg := nonneg_of_roundHalfUp h.nonneg hx
  le := roundHalfUp_le_roundHalfUp h.le hx hy

theorem ceil?_le_ceil? (h : x ≤ y) {a b : Int} (hx : x.ceil? = .ok a) (hy : y.ceil? = .ok b) : a ≤ b := by
  obtain ⟨fx, rfl⟩ := ceil?_eq_ok_iff.mp hx
  obtain ⟨fy, rfl⟩ := ceil?_eq_ok_iff.mp hy
  have exact := rank_le_of_le h
  rw [rank_of_isFinite fx, rank_of_isFinite fy] at exact
  have unit : (0 : Int) ≤ unitsPerOne := Int.natCast_nonneg _
  rw [Int.fdiv_eq_ediv_of_nonneg _ unit, Int.fdiv_eq_ediv_of_nonneg _ unit]
  exact Int.neg_le_neg (Int.ediv_le_ediv (Int.natCast_pos.mpr unitsPerOne_pos) (Int.neg_le_neg exact))

/-! ### The largest number -/

theorem canonical_largest : Canonical (2 ^ 53 - 1) 2045 := by decide

def largest : Binary64 := .finite false (2 ^ 53 - 1) 2045 canonical_largest

theorem le_largest (hx : x.isFinite = true) : x ≤ largest := by
  have finite : largest.isFinite = true := rfl
  have whole : largest.units = ((2 ^ 53 - 1) <<< 2045 : Nat) := rfl
  have magnitude := units_natAbs x
  rw [le_iff_rank (ne_nan_of_isFinite hx) (ne_nan_of_isFinite finite), rank_of_isFinite hx,
    rank_of_isFinite finite, whole]
  cases x with
  | nan | infinite => cases hx
  | finite negative m p canonical =>
    have power := canonical.power_le
    have significand : m ≤ 2 ^ 53 - 1 := by
      have few := canonical.significand_lt
      rw [Nat.one_shiftLeft] at few
      omega
    rw [Binary64.magnitude] at magnitude
    generalize 2045 = top at power
    have bound : m <<< p ≤ (2 ^ 53 - 1) <<< top := by
      rw [Nat.shiftLeft_eq, Nat.shiftLeft_eq]
      exact Nat.mul_le_mul significand (Nat.pow_le_pow_right (by decide) power)
    omega

theorem isFinite_one_add (hx : 0 ≤ x) (finite : x.isFinite = true) : (1 + x).isFinite = true := by
  have top : (1 : Binary64) + largest = largest := by decide +kernel
  have one : (0 : Binary64) ≤ 1 := by decide +kernel
  have above := add_le_add_of_nonneg one hx (le_refl' (ne_nan_of_le one).2) (le_largest finite)
  rw [top] at above
  exact isFinite_of_le_of_le zero_spec.1 rfl (add_nonneg one hx) above

end Footprint.Binary64
