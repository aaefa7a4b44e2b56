import Footprint.Binary64.HalfUp
import Footprint.Proofs.Binary64.Nearest

/-! The order of doubles, read off a rank: the exact count of units of a finite number, and for the
infinities the first counts beyond. An operation rounds the exact count of its result, so that its rank
is `roundRatio` of a fraction, and rounding a fraction is monotone. -/
namespace Footprint.Binary64

/-! ### Rank -/

def rank : Binary64 → Int
  | .infinite negative => if negative then -(limitUnits : Int) else limitUnits
  | x => x.units

theorem rank_of_isFinite {x : Binary64} (finite : x.isFinite = true) : x.rank = x.units := by
  cases x with
  | finite => rfl
  | nan | infinite => cases finite

theorem ne_nan_of_isFinite {x : Binary64} (finite : x.isFinite = true) : x ≠ nan := by
  rintro rfl
  cases finite

theorem magnitude_lt (x : Binary64) : x.magnitude < limitUnits := by
  cases x with
  | nan | infinite => exact limitUnits_pos
  | finite negative significand power canonical =>
    have most : 2 ^ power ≤ 2 ^ 2045 := pow_le_pow_right₀ (by decide) canonical.power_le
    have few : significand < 2 ^ 53 := canonical.significand_lt
    rw [magnitude, Nat.shiftLeft_eq]
    unfold limitUnits
    exact Nat.mul_lt_mul_of_lt_of_le few most (by positivity)

theorem units_lt (x : Binary64) : -(limitUnits : Int) < x.units ∧ x.units < limitUnits := by
  have := magnitude_lt x
  have := units_natAbs x
  omega

theorem le_iff_rank {x y : Binary64} (hx : x ≠ nan) (hy : y ≠ nan) : x ≤ y ↔ x.rank ≤ y.rank := by
  have left := units_lt x
  have right := units_lt y
  have pos := limitUnits_pos
  rw [le_def]
  cases x with
  | nan => contradiction
  | infinite s =>
    cases y with
    | nan => contradiction
    | infinite t => cases s <;> cases t <;> simp only [atMost, rank] <;> grind
    | finite => cases s <;> simp only [atMost, rank] <;> grind
  | finite =>
    cases y with
    | nan => contradiction
    | infinite t => cases t <;> simp only [atMost, rank] <;> grind
    | finite => simp only [atMost, rank, decide_eq_true_eq]

theorem lt_iff_rank {x y : Binary64} (hx : x ≠ nan) (hy : y ≠ nan) : x < y ↔ x.rank < y.rank := by
  have left := units_lt x
  have right := units_lt y
  have pos := limitUnits_pos
  rw [lt_def]
  cases x with
  | nan => contradiction
  | infinite s =>
    cases y with
    | nan => contradiction
    | infinite t => cases s <;> cases t <;> simp only [below, rank] <;> grind
    | finite => cases s <;> simp only [below, rank] <;> grind
  | finite =>
    cases y with
    | nan => contradiction
    | infinite t => cases t <;> simp only [below, rank] <;> grind
    | finite => simp only [below, rank, decide_eq_true_eq]

theorem ne_nan_of_le {x y : Binary64} (h : x ≤ y) : x ≠ nan ∧ y ≠ nan := by
  cases x <;> cases y <;> simp_all [le_def, atMost]

theorem rank_le_of_le {x y : Binary64} (h : x ≤ y) : x.rank ≤ y.rank :=
  (le_iff_rank (ne_nan_of_le h).1 (ne_nan_of_le h).2).mp h

theorem le_refl' {x : Binary64} (hx : x ≠ nan) : x ≤ x := (le_iff_rank hx hx).mpr le_rfl

theorem le_trans' {x y z : Binary64} (h : x ≤ y) (k : y ≤ z) : x ≤ z :=
  (le_iff_rank (ne_nan_of_le h).1 (ne_nan_of_le k).2).mpr ((rank_le_of_le h).trans (rank_le_of_le k))

theorem le_of_not_lt {x y : Binary64} (hx : x ≠ nan) (hy : y ≠ nan) (h : ¬ x < y) : y ≤ x := by
  rw [lt_iff_rank hx hy] at h
  exact (le_iff_rank hy hx).mpr (by omega)

theorem le_of_lt' {x y : Binary64} (h : x < y) : x ≤ y := by
  have hx : x ≠ nan := by
    rintro rfl
    exact not_nan_lt y h
  have hy : y ≠ nan := by
    rintro rfl
    exact not_lt_nan x h
  exact (le_iff_rank hx hy).mpr ((lt_iff_rank hx hy).mp h).le

theorem lt_of_lt_of_le' {x y z : Binary64} (h : x < y) (k : y ≤ z) : x < z := by
  have hx : x ≠ nan := by
    rintro rfl
    exact not_nan_lt y h
  have step := (lt_iff_rank hx (ne_nan_of_le k).1).mp h
  exact (lt_iff_rank hx (ne_nan_of_le k).2).mpr (step.trans_le (rank_le_of_le k))

theorem lt_of_le_of_lt' {x y z : Binary64} (h : x ≤ y) (k : y < z) : x < z := by
  have hz : z ≠ nan := by
    rintro rfl
    exact not_lt_nan _ k
  obtain ⟨hx, hy⟩ := ne_nan_of_le h
  exact (lt_iff_rank hx hz).mpr ((rank_le_of_le h).trans_lt ((lt_iff_rank hy hz).mp k))

/-! ### Rounding by rank -/

theorem power_le_of_value_eq {m n p q : Nat} (left : Canonical m p) (right : Canonical n q)
    (value : m * 2 ^ p = n * 2 ^ q) : p ≤ q := by
  by_contra above
  obtain ⟨extra, rfl⟩ : ∃ extra, p = q + (extra + 1) := ⟨p - q - 1, by omega⟩
  have normal : 1 <<< 52 ≤ m := left.normal.resolve_right (by omega)
  have scaled : n = m * 2 ^ extra * 2 := by
    rw [pow_add, pow_succ, mul_left_comm, mul_comm n] at value
    rw [← Nat.eq_of_mul_eq_mul_left (by positivity) value]
    ring
  have least : m ≤ m * 2 ^ extra := Nat.le_mul_of_pos_right m (by positivity)
  have bound := right.significand_lt
  omega

theorem eq_of_le_of_le {x y : Binary64} (hx : x.isFinite = true) (hy : y.isFinite = true)
    (nonzero : y.units ≠ 0) (h : x ≤ y) (k : y ≤ x) : x = y := by
  have exact : x.units = y.units := by
    rw [← rank_of_isFinite hx, ← rank_of_isFinite hy]
    exact le_antisymm (rank_le_of_le h) (rank_le_of_le k)
  cases x with
  | nan | infinite => cases hx
  | finite s m p left =>
    cases y with
    | nan | infinite => cases hy
    | finite t n q right =>
      have value : m * 2 ^ p = n * 2 ^ q := by
        have magnitudes := congrArg Int.natAbs exact
        rwa [units_natAbs, units_natAbs, magnitude, magnitude, Nat.shiftLeft_eq,
          Nat.shiftLeft_eq] at magnitudes
      obtain rfl : p = q := le_antisymm (power_le_of_value_eq left right value)
        (power_le_of_value_eq right left value.symm)
      obtain rfl : m = n := Nat.eq_of_mul_eq_mul_right (by positivity) value
      have sign : s = t := by
        unfold units isNegative magnitude at exact nonzero
        dsimp only at exact nonzero
        generalize m <<< p = w at exact nonzero
        cases s <;> cases t <;> simp at exact nonzero ⊢ <;> omega
      rw [sign]

theorem ofUnits_ne_nan (negative : Bool) (n d : Nat) : ofUnits negative n d ≠ nan := by
  unfold ofUnits
  dsimp only
  split
  · simp
  · split <;> simp

theorem ofUnits_eq (negative : Bool) (n d : Nat) :
    ofUnits negative n d =
      if fits : Canonical (roundedSignificand n d) (unitPower n d) then
        finite negative (roundedSignificand n d) (unitPower n d) fits
      else if fits : Canonical (roundedSignificand n d / 2) (unitPower n d + 1) then
        finite negative (roundedSignificand n d / 2) (unitPower n d + 1) fits
      else infinite negative := rfl

theorem canonical_iff {m p : Nat} (least : 0 < p → 2 ^ 52 ≤ m) :
    Canonical m p ↔ m < 2 ^ 53 ∧ p ≤ 2045 := by
  constructor
  · exact fun fits => ⟨fits.significand_lt, fits.power_le⟩
  · intro ⟨few, low⟩
    refine ⟨few, ?_, low⟩
    simp only [Nat.shiftLeft_eq]
    omega

theorem eq_of_carried {m p : Nat} (most : m ≤ 2 ^ 53) (least : 0 < p → 2 ^ 52 ≤ m)
    (high : ¬ Canonical m p) (fits : Canonical (m / 2) (p + 1)) : m = 2 ^ 53 := by
  have := fits.power_le
  rw [canonical_iff least] at high
  omega

/-- Where neither the significand nor its half one place up fits, the magnitude is out of range. -/
theorem limitUnits_le_shiftLeft {m p : Nat} (most : m ≤ 2 ^ 53) (least : 0 < p → 2 ^ 52 ≤ m)
    (high : ¬ Canonical m p) (higher : ¬ Canonical (m / 2) (p + 1)) : limitUnits ≤ m <<< p := by
  rw [canonical_iff least] at high
  rw [Nat.shiftLeft_eq]
  unfold limitUnits
  obtain full | partly := Nat.eq_or_lt_of_le most
  · have place : 2045 ≤ p := by
      by_contra low
      refine higher ((canonical_iff ?_).mpr ?_) <;> omega
    rw [full]
    exact Nat.mul_le_mul_left _ (pow_le_pow_right₀ (by decide) place)
  · have place : 2046 ≤ p := by omega
    have double : 2 ^ 53 * 2 ^ 2045 = 2 ^ 52 * 2 ^ (2045 + 1) := by
      rw [pow_succ 2 2045]
      generalize 2 ^ 2045 = unit
      omega
    rw [double]
    exact Nat.mul_le_mul (least (by omega)) (pow_le_pow_right₀ (by decide) place)

/-- The rank of the double nearest a fraction is its count of units, or the first count beyond all. -/
theorem rank_ofUnits (negative : Bool) (n : Nat) {d : Nat} (pos : 0 < d) :
    (ofUnits negative n d).rank = if negative then -(cappedUnits n d : Int) else cappedUnits n d := by
  have most := roundedSignificand_le n pos
  have least := le_roundedSignificand n pos
  rw [ofUnits_eq, cappedUnits, roundedUnits]
  generalize roundedSignificand n d = m at *
  generalize unitPower n d = p at *
  split
  · next fits =>
    have bound := magnitude_lt (finite negative m p fits)
    rw [magnitude] at bound
    rw [Nat.min_eq_left bound.le]
    rfl
  · next high =>
    split
    · next fits =>
      have carried : (m / 2) <<< (p + 1) = m <<< p := by
        rw [eq_of_carried most least high fits, Nat.shiftLeft_eq, Nat.shiftLeft_eq, pow_succ]
        ring
      have bound := magnitude_lt (finite negative _ _ fits)
      rw [magnitude, carried] at bound
      rw [Nat.min_eq_left bound.le, ← carried]
      rfl
    · next higher =>
      rw [Nat.min_eq_right (limitUnits_le_shiftLeft most least high higher)]
      rfl

end Footprint.Binary64
