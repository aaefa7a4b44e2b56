import Footprint.Proofs.Binary64.Order

/-! Arithmetic keeps the order of doubles. On finite operands the rank of a result is the exact one,
rounded; infinite operands lie at the ends of the order, where nothing is left to compare. -/
namespace Footprint.Binary64

/-! ### The ends of the order -/

theorem le_infinite {x : Binary64} (hx : x ≠ nan) : x ≤ infinite false := by
  cases x with
  | nan => contradiction
  | infinite s => cases s <;> rfl
  | finite => rfl

theorem infinite_le {x : Binary64} (hx : x ≠ nan) : infinite true ≤ x := by
  cases x with
  | nan => contradiction
  | infinite s => cases s <;> rfl
  | finite => rfl

theorem isFinite_of_rank {x : Binary64} (hx : x ≠ nan) (low : -(limitUnits : Int) < x.rank)
    (high : x.rank < limitUnits) : x.isFinite = true := by
  cases x with
  | nan => contradiction
  | infinite s => cases s <;> simp [rank] at low high
  | finite => rfl

theorem isFinite_of_le_of_le {lo x hi : Binary64} (hlo : lo.isFinite = true)
    (hhi : hi.isFinite = true) (low : lo ≤ x) (high : x ≤ hi) : x.isFinite = true := by
  have left := rank_le_of_le low
  have right := rank_le_of_le high
  rw [rank_of_isFinite hlo] at left
  rw [rank_of_isFinite hhi] at right
  have := units_lt lo
  have := units_lt hi
  exact isFinite_of_rank (ne_nan_of_le low).2 (by omega) (by omega)

/-- Of two numbers in order, one is at the end of the order on its own side, or both are finite. -/
theorem le_cases {x y : Binary64} (h : x ≤ y) :
    x = infinite true ∨ y = infinite false ∨
      x.isFinite = true ∧ y.isFinite = true ∧ x.units ≤ y.units := by
  cases x <;> cases y <;> simp_all [le_def, atMost, isFinite]

/-! ### Operations on finite numbers -/

theorem unitsPerOne_pos : 0 < unitsPerOne := by
  unfold unitsPerOne
  generalize 1074 = e
  rw [Nat.one_shiftLeft]
  positivity

theorem zero_spec : (0 : Binary64).isFinite = true ∧ (0 : Binary64).units = 0 ∧ (0 : Binary64) + 0 = 0 := by
  decide +kernel

theorem zero_le_zero : (0 : Binary64) ≤ 0 := le_refl' (ne_nan_of_isFinite zero_spec.1)

theorem rank_ofUnits_natAbs {negative : Bool} {u : Int} {d : Nat} (pos : 0 < d)
    (sign : u = 0 ∨ (negative = true ↔ u < 0)) :
    (ofUnits negative u.natAbs d).rank = roundRatio u d := by
  rw [rank_ofUnits negative u.natAbs pos, roundRatio]
  obtain rfl | sign := sign
  · simp [cappedUnits_zero]
  · simp only [sign]

theorem rank_zero (negative : Bool) : (zero negative).rank = 0 := units_zero negative

theorem rank_add {x y : Binary64} (hx : x.isFinite = true) (hy : y.isFinite = true) :
    (x + y).rank = roundRatio (x.units + y.units) 1 ∧ x + y ≠ nan := by
  cases x with
  | nan | infinite => cases hx
  | finite s m p h =>
    cases y with
    | nan | infinite => cases hy
    | finite t n q k =>
      change (add _ _).rank = _ ∧ add _ _ ≠ nan
      unfold add
      dsimp only
      generalize (finite s m p h).units + (finite t n q k).units = u
      split
      · next zero =>
        rw [zero, rank_zero]
        exact ⟨by simp [roundRatio, cappedUnits_zero], nofun⟩
      · exact ⟨rank_ofUnits_natAbs Nat.one_pos (.inr decide_eq_true_iff), ofUnits_ne_nan _ _ _⟩

theorem isNegative_iff {x : Binary64} (nonzero : x.units ≠ 0) : x.isNegative = true ↔ x.units < 0 := by
  unfold units at nonzero ⊢
  cases negative : x.isNegative <;> simp [negative] at nonzero ⊢
  omega

theorem units_mul_neg_iff (x y : Binary64) :
    x.units * y.units = 0 ∨ ((x.isNegative != y.isNegative) = true ↔ x.units * y.units < 0) := by
  refine or_iff_not_imp_left.mpr fun nonzero => ?_
  have left := isNegative_iff (left_ne_zero_of_mul nonzero)
  have right := isNegative_iff (right_ne_zero_of_mul nonzero)
  rw [mul_neg_iff, bne_iff_ne, ne_eq, Bool.eq_iff_iff, left, right]
  have := left_ne_zero_of_mul nonzero
  have := right_ne_zero_of_mul nonzero
  omega

theorem rank_mul {x y : Binary64} (hx : x.isFinite = true) (hy : y.isFinite = true) :
    (x * y).rank = roundRatio (x.units * y.units) unitsPerOne ∧ x * y ≠ nan := by
  have sign := units_mul_neg_iff x y
  cases x with
  | nan | infinite => cases hx
  | finite s m p h =>
    cases y with
    | nan | infinite => cases hy
    | finite t n q k =>
      have product : finite s m p h * finite t n q k =
          ofUnits (s != t) ((m <<< p) * (n <<< q)) unitsPerOne := rfl
      rw [product]
      refine ⟨?_, ofUnits_ne_nan _ _ _⟩
      rw [← rank_ofUnits_natAbs unitsPerOne_pos sign, Int.natAbs_mul, units_natAbs, units_natAbs]
      rfl

theorem exists_of_units_pos {y : Binary64} (hy : y.isFinite = true) (pos : 0 < y.units) :
    ∃ n q k, y = finite false n q k ∧ n ≠ 0 := by
  cases y with
  | nan | infinite => cases hy
  | finite t n q k =>
    have unsigned : t = false := by
      rw [← Bool.not_eq_true]
      intro negative
      have := (isNegative_iff pos.ne').mp negative
      omega
    refine ⟨n, q, k, by rw [unsigned], ?_⟩
    rintro rfl
    simp [units, magnitude] at pos

theorem rank_div {x y : Binary64} (hx : x.isFinite = true) (hy : y.isFinite = true)
    (pos : 0 < y.units) :
    (x / y).rank = roundRatio (x.units * unitsPerOne) y.units.natAbs ∧ x / y ≠ nan := by
  have magnitude := units_natAbs y
  have unit := Int.natCast_pos.mpr unitsPerOne_pos
  obtain ⟨n, q, k, rfl, nonzero⟩ := exists_of_units_pos hy pos
  cases x with
  | nan | infinite => cases hx
  | finite s m p h =>
    have quotient : finite s m p h / finite false n q k =
        ofUnits (s != false) ((m <<< p) * unitsPerOne) (n <<< q) := if_neg nonzero
    have numerator : (m <<< p) * unitsPerOne = ((finite s m p h).units * unitsPerOne).natAbs := by
      rw [Int.natAbs_mul, units_natAbs]
      rfl
    have denominator : n <<< q = (finite false n q k).units.natAbs := magnitude.symm
    rw [quotient, numerator, denominator]
    refine ⟨rank_ofUnits_natAbs (by omega) ?_, ofUnits_ne_nan _ _ _⟩
    refine or_iff_not_imp_left.mpr fun product => ?_
    have sign : s = true ↔ _ := isNegative_iff (left_ne_zero_of_mul product)
    rw [Bool.bne_false, sign, mul_neg_iff]
    omega

theorem rank_ofRatio (n : Int) {d : Nat} (pos : 0 < d) :
    (ofRatio n d).rank = roundRatio (n * unitsPerOne) d ∧ ofRatio n d ≠ nan := by
  have numerator : n.natAbs * unitsPerOne = (n * unitsPerOne).natAbs := by
    rw [Int.natAbs_mul, Int.natAbs_natCast]
  have unit := Int.natCast_pos.mpr unitsPerOne_pos
  have sign : n * (unitsPerOne : Int) < 0 ↔ n < 0 := by
    generalize (unitsPerOne : Int) = u at unit
    rw [mul_neg_iff]
    omega
  refine ⟨?_, ofUnits_ne_nan _ _ _⟩
  rw [ofRatio, numerator]
  refine rank_ofUnits_natAbs pos (.inr ?_)
  rw [decide_eq_true_iff, sign]

theorem rank_ofInt (n : Int) : (ofInt n).rank = roundRatio (n * unitsPerOne) 1 ∧ ofInt n ≠ nan :=
  rank_ofRatio n Nat.one_pos

/-! ### Order -/

theorem infinite_add {negative : Bool} {y : Binary64} (h : infinite negative + y ≠ nan) :
    infinite negative + y = infinite negative := by
  change add _ _ ≠ nan at h
  change add _ _ = _
  cases y with
  | nan => exact absurd rfl h
  | infinite s => cases negative <;> cases s <;> simp_all [add]
  | finite => rfl

theorem add_infinite {negative : Bool} {x : Binary64} (h : x + infinite negative ≠ nan) :
    x + infinite negative = infinite negative := by
  change add _ _ ≠ nan at h
  change add _ _ = _
  cases x with
  | nan => exact absurd rfl h
  | infinite s => cases negative <;> cases s <;> simp_all [add]
  | finite => rfl

/-- Sums keep the order on both sides. Where neither sum is at the end of the order on its own side,
all four terms are finite, and it is the rounding that keeps the order. -/
theorem add_le_add {x x' y y' : Binary64} (h : x ≤ x') (k : y ≤ y') (left : x + y ≠ nan)
    (right : x' + y' ≠ nan) : x + y ≤ x' + y' := by
  obtain rfl | rfl | ⟨fx, fx', exactX⟩ := le_cases h
  · rw [infinite_add left]
    exact infinite_le right
  · rw [infinite_add right]
    exact le_infinite left
  obtain rfl | rfl | ⟨fy, fy', exactY⟩ := le_cases k
  · rw [add_infinite left]
    exact infinite_le right
  · rw [add_infinite right]
    exact le_infinite left
  rw [le_iff_rank left right, (rank_add fx fy).1, (rank_add fx' fy').1]
  exact roundRatio_le_roundRatio Nat.one_pos Nat.one_pos (by omega)

theorem nonneg_cases {x : Binary64} (h : 0 ≤ x) : x = infinite false ∨ x.isFinite = true := by
  obtain absurd | rfl | ⟨-, fx, -⟩ := le_cases h
  · have finite := zero_spec.1
    rw [absurd] at finite
    cases finite
  · exact .inl rfl
  · exact .inr fx

theorem add_ne_nan_of_nonneg {x y : Binary64} (hx : 0 ≤ x) (hy : 0 ≤ y) : x + y ≠ nan := by
  obtain rfl | fx := nonneg_cases hx
  · obtain rfl | fy := nonneg_cases hy
    · nofun
    · cases y with
      | nan | infinite => cases fy
      | finite => exact (nofun : infinite false ≠ nan)
  · obtain rfl | fy := nonneg_cases hy
    · cases x with
      | nan | infinite => cases fx
      | finite => exact (nofun : infinite false ≠ nan)
    · exact (rank_add fx fy).2

theorem add_le_add_of_nonneg {x x' y y' : Binary64} (hx : 0 ≤ x) (hy : 0 ≤ y) (h : x ≤ x')
    (k : y ≤ y') : x + y ≤ x' + y' :=
  add_le_add h k (add_ne_nan_of_nonneg hx hy)
    (add_ne_nan_of_nonneg (le_trans' hx h) (le_trans' hy k))

theorem add_nonneg {x y : Binary64} (hx : 0 ≤ x) (hy : 0 ≤ y) : 0 ≤ x + y := by
  rw [← zero_spec.2.2]
  exact add_le_add_of_nonneg zero_le_zero zero_le_zero hx hy

theorem add_ne_nan_of_isFinite {x y : Binary64} (hx : x ≠ nan) (hy : y.isFinite = true) :
    x + y ≠ nan := by
  cases x with
  | nan => contradiction
  | infinite =>
    cases y with
    | nan | infinite => cases hy
    | finite => nofun
  | finite => exact (rank_add rfl hy).2

theorem infinite_mul (negative : Bool) {z : Binary64} (hz : z.isFinite = true) (pos : 0 < z.units) :
    infinite negative * z = infinite negative := by
  obtain ⟨n, q, k, rfl, nonzero⟩ := exists_of_units_pos hz pos
  refine (if_neg nonzero).trans ?_
  rw [Bool.bne_false]

theorem infinite_div (negative : Bool) {z : Binary64} (hz : z.isFinite = true) (pos : 0 < z.units) :
    infinite negative / z = infinite negative := by
  obtain ⟨n, q, k, rfl, nonzero⟩ := exists_of_units_pos hz pos
  change infinite (negative != false) = _
  rw [Bool.bne_false]

theorem mul_ne_nan {x z : Binary64} (hx : x ≠ nan) (hz : z.isFinite = true) (pos : 0 < z.units) :
    x * z ≠ nan := by
  cases x with
  | nan => contradiction
  | infinite => rw [infinite_mul _ hz pos]; nofun
  | finite => exact (rank_mul rfl hz).2

theorem div_ne_nan {x z : Binary64} (hx : x ≠ nan) (hz : z.isFinite = true) (pos : 0 < z.units) :
    x / z ≠ nan := by
  cases x with
  | nan => contradiction
  | infinite => rw [infinite_div _ hz pos]; nofun
  | finite => exact (rank_div rfl hz pos).2

theorem mul_le_mul_right {x y z : Binary64} (h : x ≤ y) (hz : z.isFinite = true) (pos : 0 < z.units) :
    x * z ≤ y * z := by
  have left := mul_ne_nan (ne_nan_of_le h).1 hz pos
  have right := mul_ne_nan (ne_nan_of_le h).2 hz pos
  obtain rfl | rfl | ⟨fx, fy, exact⟩ := le_cases h
  · rw [infinite_mul true hz pos]
    exact infinite_le right
  · rw [infinite_mul false hz pos]
    exact le_infinite left
  rw [le_iff_rank left right, (rank_mul fx hz).1, (rank_mul fy hz).1]
  refine roundRatio_le_roundRatio unitsPerOne_pos unitsPerOne_pos ?_
  exact Int.mul_le_mul_of_nonneg_right (Int.mul_le_mul_of_nonneg_right exact pos.le)
    (Int.natCast_nonneg _)

theorem div_le_div_right {x y z : Binary64} (h : x ≤ y) (hz : z.isFinite = true) (pos : 0 < z.units) :
    x / z ≤ y / z := by
  have left := div_ne_nan (ne_nan_of_le h).1 hz pos
  have right := div_ne_nan (ne_nan_of_le h).2 hz pos
  obtain rfl | rfl | ⟨fx, fy, exact⟩ := le_cases h
  · rw [infinite_div true hz pos]
    exact infinite_le right
  · rw [infinite_div false hz pos]
    exact le_infinite left
  rw [le_iff_rank left right, (rank_div fx hz pos).1, (rank_div fy hz pos).1]
  refine roundRatio_le_roundRatio (by omega) (by omega) ?_
  exact Int.mul_le_mul_of_nonneg_right
    (Int.mul_le_mul_of_nonneg_right exact (Int.natCast_nonneg _)) (Int.natCast_nonneg _)

/-! ### Operands of a finite result -/

section

variable {x y : Binary64}

theorem isFinite_of_add (sum : (x + y).isFinite = true) : x.isFinite = true := by
  cases x with
  | nan => cases sum
  | infinite s => rwa [infinite_add (ne_nan_of_isFinite sum)] at sum
  | finite => rfl

theorem isFinite_of_mul (hy : y.isFinite = true) (pos : 0 < y.units) (product : (x * y).isFinite = true) :
    x.isFinite = true := by
  cases x with
  | nan => cases product
  | infinite s => rwa [infinite_mul s hy pos] at product
  | finite => rfl

theorem isFinite_of_div (hy : y.isFinite = true) (pos : 0 < y.units) (quotient : (x / y).isFinite = true) :
    x.isFinite = true := by
  cases x with
  | nan => cases quotient
  | infinite s => rwa [infinite_div s hy pos] at quotient
  | finite => rfl

end

/-! ### Whole numbers -/

theorem floor?_eq_ok_iff {x : Binary64} {n : Int} :
    x.floor? = .ok n ↔ x.isFinite = true ∧ Int.fdiv x.units unitsPerOne = n := by
  cases x <;> simp [floor?, units?, Except.map, isFinite]

theorem ceil?_eq_ok_iff {x : Binary64} {n : Int} :
    x.ceil? = .ok n ↔ x.isFinite = true ∧ -Int.fdiv (-x.units) unitsPerOne = n := by
  cases x <;> simp [ceil?, units?, Except.map, isFinite]

theorem truncate?_eq_ok_iff {x : Binary64} {n : Int} :
    x.truncate? = .ok n ↔ x.isFinite = true ∧ Int.tdiv x.units unitsPerOne = n := by
  cases x <;> simp [truncate?, units?, isFinite, Except.map]

theorem exists_truncate? {x : Binary64} (hx : x.isFinite = true) : ∃ n, x.truncate? = .ok n :=
  ⟨_, truncate?_eq_ok_iff.mpr ⟨hx, rfl⟩⟩

theorem floor?_le_floor? {x y : Binary64} (h : x ≤ y) {a b : Int} (hx : x.floor? = .ok a)
    (hy : y.floor? = .ok b) : a ≤ b := by
  obtain ⟨fx, rfl⟩ := floor?_eq_ok_iff.mp hx
  obtain ⟨fy, rfl⟩ := floor?_eq_ok_iff.mp hy
  have exact := rank_le_of_le h
  rw [rank_of_isFinite fx, rank_of_isFinite fy] at exact
  have unit : (0 : Int) ≤ unitsPerOne := Int.natCast_nonneg _
  rw [Int.fdiv_eq_ediv_of_nonneg _ unit, Int.fdiv_eq_ediv_of_nonneg _ unit]
  exact Int.ediv_le_ediv (Int.natCast_pos.mpr unitsPerOne_pos) exact

theorem truncate?_le_truncate? {x y : Binary64} (h : x ≤ y) {a b : Int} (hx : x.truncate? = .ok a)
    (hy : y.truncate? = .ok b) : a ≤ b := by
  obtain ⟨finiteX, rfl⟩ := truncate?_eq_ok_iff.mp hx
  obtain ⟨finiteY, rfl⟩ := truncate?_eq_ok_iff.mp hy
  have order := rank_le_of_le h
  rw [rank_of_isFinite finiteX, rank_of_isFinite finiteY] at order
  exact Int.tdiv_le_tdiv (Int.natCast_pos.mpr unitsPerOne_pos) order

theorem refuseInfinite_eq_ok_iff {e : ArithmeticError} {x y : Binary64} :
    x.refuseInfinite e = .ok y ↔ x = y ∧ ∀ negative, x ≠ infinite negative := by
  cases x <;> simp [refuseInfinite]

theorem eq_of_refuseInfinite_eq_error {e other : ArithmeticError} {x : Binary64}
    (h : x.refuseInfinite e = .error other) : other = e ∧ x.isFinite = false := by
  cases x with
  | nan | finite => nomatch h
  | infinite => exact ⟨(Except.error.inj h).symm, rfl⟩

theorem isFinite_of_refuseInfinite {e : ArithmeticError} {x y : Binary64} (hx : x ≠ nan)
    (h : x.refuseInfinite e = .ok y) : x = y ∧ y.isFinite = true := by
  obtain ⟨rfl, bounded⟩ := refuseInfinite_eq_ok_iff.mp h
  cases x with
  | nan => contradiction
  | infinite negative => exact (bounded negative rfl).elim
  | finite => exact ⟨rfl, rfl⟩

theorem refuseInfinite_of_isFinite {x : Binary64} (e : ArithmeticError) (hx : x.isFinite = true) :
    x.refuseInfinite e = .ok x := by
  cases x with
  | nan | infinite => cases hx
  | finite => rfl

theorem ofRatio?_eq (n : Int) {d : Nat} (pos : 0 < d) :
    ofRatio? n d = (ofRatio n d).refuseInfinite .quotientTooLarge := by
  have nonzero : (d : Int) ≠ 0 := by omega
  have unsigned : decide ((d : Int) < 0) = false := by simp
  rw [ofRatio?, if_neg nonzero, unsigned, Bool.bne_false, Int.natAbs_natCast, ofRatio]

theorem ofRatio_le_ofRatio {m n : Int} (h : m ≤ n) {d : Nat} (pos : 0 < d) :
    ofRatio m d ≤ ofRatio n d := by
  obtain ⟨rankM, neM⟩ := rank_ofRatio m pos
  obtain ⟨rankN, neN⟩ := rank_ofRatio n pos
  rw [le_iff_rank neM neN, rankM, rankN]
  refine roundRatio_le_roundRatio pos pos ?_
  exact Int.mul_le_mul_of_nonneg_right
    (Int.mul_le_mul_of_nonneg_right h (Int.natCast_nonneg _)) (Int.natCast_nonneg _)

end Footprint.Binary64
