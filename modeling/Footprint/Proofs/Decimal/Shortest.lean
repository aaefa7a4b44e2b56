import Footprint.Decimal.Shortest
import Footprint.Proofs.Binary64.FixedPoints

/-! Shortest decimals read back as the number that they are of. What a decimal is tried for is that it lies
in the interval of the values that round to the number; and the grid of seventeen digits is so fine that
its next point above the number does. -/
namespace Footprint

open Binary64

/-! ### Rounding to a given significand -/

theorem nearestEven_eq {n d k : Nat} (pos : 0 < d) (low : 2 * k * d ≤ 2 * n + d)
    (high : 2 * n ≤ (2 * k + 1) * d)
    (ties : 2 * k * d = 2 * n + d ∨ 2 * n = (2 * k + 1) * d → k % 2 = 0) : nearestEven n d = k := by
  obtain ⟨above, below, evenAbove, evenBelow⟩ := nearestEven_spec n pos
  generalize nearestEven n d = l at *
  have products (i j : Nat) : 2 * (i + j) * d = 2 * (i * d) + 2 * (j * d) := by ring
  have halves (i : Nat) : (2 * i + 1) * d = 2 * (i * d) + d := by ring
  have next (j : Nat) : (j + 1) * d = j * d + d := by ring
  -- Two such integers are neighbours of the half between them, and not both even.
  obtain less | same | more := Nat.lt_trichotomy l k
  · obtain ⟨j, rfl⟩ := Nat.exists_eq_add_of_lt less
    rw [add_assoc] at *
    rw [products, next] at low ties
    rw [halves] at above evenAbove
    have none : j * d = 0 := by omega
    obtain rfl := (Nat.mul_eq_zero.mp none).resolve_right pos.ne'
    omega
  · exact same
  · obtain ⟨j, rfl⟩ := Nat.exists_eq_add_of_lt more
    rw [add_assoc] at *
    rw [products, next] at below evenBelow
    rw [halves] at high ties
    have none : j * d = 0 := by omega
    obtain rfl := (Nat.mul_eq_zero.mp none).resolve_right pos.ne'
    omega

theorem unitPower_eq {n d p : Nat} (pos : 0 < d) (low : p = 0 ∨ 2 ^ (52 + p) * d ≤ n)
    (high : n < 2 ^ (53 + p) * d) : unitPower n d = p := by
  have quotient : n / d < 2 ^ (53 + p) := (Nat.div_lt_iff_lt_mul pos).mpr high
  have most : (n / d).log2 < 53 + p := by
    obtain zero | some := Nat.eq_zero_or_pos (n / d)
    · rw [zero, Nat.log2_zero]
      omega
    · exact (Nat.log2_lt some.ne').mpr quotient
  unfold unitPower
  obtain rfl | low := low
  · omega
  · have least : 2 ^ (52 + p) ≤ n / d := (Nat.le_div_iff_mul_le pos).mpr low
    have places := (Nat.le_log2 ((Nat.two_pow_pos _).trans_le least).ne').mpr least
    omega

/-! ### The interval of a number -/

namespace Decimal

theorem Interval.bounds_of_holds {i : Interval} {n d : Nat} (h : i.holds n d = true) :
    i.low * d ≤ n * i.denominator ∧ n * i.denominator ≤ i.high * d ∧
      (i.closed = false → i.low * d ≠ n * i.denominator ∧ n * i.denominator ≠ i.high * d) := by
  unfold holds at h
  dsimp only at h
  split at h
  · next closed =>
    simp only [Bool.and_eq_true, decide_eq_true_eq] at h
    simp [closed, h]
  · simp only [Bool.and_eq_true, decide_eq_true_eq] at h
    exact ⟨h.1.le, h.2.le, fun _ => ⟨h.1.ne, h.2.ne⟩⟩

theorem units_of_holds {m p n d : Nat} (h : (Interval.around m p).holds n d = true) :
    ∃ below, (below = 1 ∧ m = 2 ^ 52 ∧ 0 < p ∨ below = 2 ∧ (m ≠ 2 ^ 52 ∨ p = 0)) ∧
      (4 * m - below) * (d * 2 ^ p) ≤ 4 * (n * unitsPerOne) ∧
      4 * (n * unitsPerOne) ≤ (4 * m + 2) * (d * 2 ^ p) ∧
      (m % 2 = 1 → (4 * m - below) * (d * 2 ^ p) ≠ 4 * (n * unitsPerOne) ∧
        4 * (n * unitsPerOne) ≠ (4 * m + 2) * (d * 2 ^ p)) := by
  have ⟨low, high, ends⟩ := Interval.bounds_of_holds h
  have point : n * (4 * unitsPerOne) = 4 * (n * unitsPerOne) := by ring
  have scaled (a : Nat) : a <<< p * d = a * (d * 2 ^ p) := by
    rw [Nat.shiftLeft_eq]
    ring
  simp only [Interval.around, point, scaled] at low high ends
  refine ⟨_, ?_, low, high, fun odd => ends (by simp [odd])⟩
  split
  · simp_all
  · simp_all
    omega

theorem roundedUnits_of_holds {m p n d : Nat} (fits : Canonical m p) (nonzero : m ≠ 0) (pos : 0 < d)
    (h : (Interval.around m p).holds n d = true) : roundedUnits (n * unitsPerOne) d = m <<< p := by
  obtain ⟨below, shape, low, high, ends⟩ := units_of_holds h
  have few : m < 2 ^ 53 := fits.significand_lt
  have unit : 0 < d * 2 ^ p := by positivity
  generalize n * unitsPerOne = units at *
  have whole : 4 * m * (d * 2 ^ p) = 4 * (m * (d * 2 ^ p)) := Nat.mul_assoc ..
  rw [Nat.sub_mul, whole] at low ends
  rw [Nat.add_mul, whole] at high ends
  have half : below * (d * 2 ^ p) ≤ 2 * (d * 2 ^ p) := Nat.mul_le_mul_right _ (by omega)
  have limit : m * (d * 2 ^ p) ≤ (2 ^ 53 - 1) * (d * 2 ^ p) := Nat.mul_le_mul_right _ (by omega)
  have shifted (a q : Nat) : 2 ^ (a + q) * d = 2 ^ a * (d * 2 ^ q) := by
    rw [pow_add]
    ring
  by_cases least : p = 0 ∨ 2 ^ (52 + p) * d ≤ units
  · have place : unitPower units d = p := by
      refine unitPower_eq pos least ?_
      rw [shifted]
      omega
    have significand : nearestEven units (d * 2 ^ p) = m := by
      refine nearestEven_eq unit ?_ ?_ ?_
      all_goals simp only [Nat.add_mul, Nat.mul_assoc]
      · omega
      · omega
      · intro tie
        obtain ⟨-, rfl, -⟩ | ⟨rfl, -⟩ := shape
        · rfl
        · by_contra odd
          have := ends (by omega)
          omega
    rw [roundedUnits, roundedSignificand, place, Nat.shiftLeft_eq d, significand]
  · -- Only a value just below a power of two has a finer last place.
    obtain ⟨q, rfl⟩ : ∃ q, p = q + 1 := ⟨p - 1, by omega⟩
    rw [shifted, not_or] at least
    have normal : 2 ^ 52 ≤ m := fits.normal.resolve_right (by omega)
    have power : m = 2 ^ 52 := by
      by_contra more
      have next : (2 ^ 52 + 1) * (d * 2 ^ (q + 1)) ≤ m * (d * 2 ^ (q + 1)) :=
        Nat.mul_le_mul_right _ (by omega)
      omega
    obtain ⟨rfl, rfl, -⟩ | ⟨-, absurd⟩ := shape
    · have double : d * 2 ^ (q + 1) = 2 * (d * 2 ^ q) := by
        rw [pow_succ]
        ring
      rw [double] at low high least unit
      have place : unitPower units d = q := by
        refine unitPower_eq pos (.inr ?_) ?_ <;> rw [shifted] <;> omega
      have significand : nearestEven units (d * 2 ^ q) = 2 ^ 53 := by
        refine nearestEven_eq (by omega) (by omega) (by omega) fun _ => rfl
      rw [roundedUnits, roundedSignificand, place, Nat.shiftLeft_eq d, significand, Nat.shiftLeft_eq,
        Nat.shiftLeft_eq, pow_succ 2 q]
      omega
    · omega

theorem ofUnits_of_holds (negative : Bool) {m p n d : Nat} (fits : Canonical m p) (nonzero : m ≠ 0)
    (pos : 0 < d) (h : (Interval.around m p).holds n d = true) :
    ofUnits negative (n * unitsPerOne) d = finite negative m p fits := by
  have bound := magnitude_lt (finite negative m p fits)
  have some : m <<< p ≠ 0 := by
    rw [Nat.shiftLeft_eq]
    positivity
  rw [magnitude] at bound
  refine eq_of_rank_eq (ofUnits_ne_nan negative _ d) rfl ?_ ?_
  · rw [← Int.natAbs_ne_zero, units_natAbs]
    exact some
  · rw [rank_ofUnits negative _ pos, cappedUnits, roundedUnits_of_holds fits nonzero pos h,
      Nat.min_eq_left bound.le]
    rfl

/-! ### Decimals in the interval -/

def Interval.Has (i : Interval) (n : Nat) (e : Int) : Prop :=
  i.holds (fraction n e).1 (fraction n e).2 = true

theorem fraction_pos (n : Nat) (e : Int) : 0 < (fraction n e).2 := Nat.pow_pos (by decide)

theorem fraction_natCast (n k : Nat) : fraction n k = (n * 10 ^ k, 1) := by
  have none : (-(k : Int)).toNat = 0 := by omega
  simp [fraction, none]

theorem fraction_negSucc (n k : Nat) : fraction n (.negSucc k) = (n, 10 ^ (k + 1)) := by
  simp [fraction, Int.neg_negSucc]

theorem Interval.holds_congr (i : Interval) {a b c d : Nat} (hb : 0 < b) (hd : 0 < d) (h : a * d = c * b) :
    i.holds a b = i.holds c d := by
  have left (x : Nat) : x * b * d = x * d * b := by ring
  have right : a * i.denominator * d = c * i.denominator * b := by
    calc
      _ = a * d * i.denominator := by ring
      _ = _ := by rw [h]; ring
  have below (x : Nat) : x * b ≤ a * i.denominator ↔ x * d ≤ c * i.denominator := by
    rw [← Nat.mul_le_mul_right_iff hd, left, right, Nat.mul_le_mul_right_iff hb]
  have above (x : Nat) : a * i.denominator ≤ x * b ↔ c * i.denominator ≤ x * d := by
    rw [← Nat.mul_le_mul_right_iff hd, left, right, Nat.mul_le_mul_right_iff hb]
  simp only [holds, ← Nat.not_le, below, above]

theorem Interval.has_mul_ten (i : Interval) (n : Nat) (e : Int) : i.Has (n * 10) e ↔ i.Has n (e + 1) := by
  unfold Has
  rw [i.holds_congr (fraction_pos _ _) (fraction_pos n (e + 1))]
  cases e with
  | ofNat k =>
    have next : Int.ofNat k + 1 = ((k + 1 : Nat) : Int) := rfl
    rw [next, Int.ofNat_eq_natCast, fraction_natCast, fraction_natCast, pow_succ]
    ring
  | negSucc k =>
    cases k with
    | zero =>
      have next : Int.negSucc 0 + 1 = ((0 : Nat) : Int) := rfl
      rw [next, fraction_negSucc, fraction_natCast]
      ring
    | succ k =>
      have next : Int.negSucc (k + 1) + 1 = Int.negSucc k := rfl
      rw [next, fraction_negSucc, fraction_negSucc, pow_succ 10 (k + 1)]
      ring

theorem Interval.has_mul_ten_pow (i : Interval) (n k : Nat) (e : Int) :
    i.Has (n * 10 ^ k) e ↔ i.Has n (e + k) := by
  induction k generalizing e with
  | zero => simp
  | succ k ih =>
    rw [pow_succ, ← mul_assoc, has_mul_ten, ih, Nat.cast_succ, add_right_comm, add_assoc]

theorem two_pow_le_ten_pow (k : Nat) : 2 ^ (3 * k) ≤ 10 ^ k := by
  rw [pow_mul]
  exact Nat.pow_le_pow_left (by decide) k

theorem ofDecimal_of_has (negative : Bool) {m p n : Nat} {e : Int} (fits : Canonical m p) (nonzero : m ≠ 0)
    (h : (Interval.around m p).Has n e) : ofDecimal negative n e = finite negative m p fits := by
  have rounded := ofUnits_of_holds negative fits nonzero (fraction_pos n e) h
  obtain ⟨below, shape, low, high, -⟩ := units_of_holds h
  have least : 2 ≤ 4 * m - below := by omega
  obtain ⟨one, unit, value⟩ : ∃ k, unitsPerOne = 2 ^ k ∧ k = 1074 := ⟨1074, unitsPerOne_eq, rfl⟩
  rw [unit] at low high
  -- The range of the doubles settles that no shortcut is taken.
  cases e with
  | ofNat e =>
    rw [Int.ofNat_eq_natCast] at rounded low high ⊢
    rw [fraction_natCast] at rounded low high
    have some : n ≠ 0 := by
      rintro rfl
      have positive : 0 < (4 * m - below) * (1 * 2 ^ p) := Nat.mul_pos (by omega) (by positivity)
      rw [Nat.zero_mul, Nat.zero_mul, Nat.mul_zero] at low
      exact absurd positive (Nat.not_lt.mpr low)
    have few : ¬ 400 < e := by
      intro many
      have small : 4 * m + 2 ≤ 2 ^ 55 := by
        have : m < 2 ^ 53 := fits.significand_lt
        omega
      have powers : 2 ^ (2 + 3 * e + one) ≤ 2 ^ (55 + p) := by
        calc
          2 ^ (2 + 3 * e + one) = 4 * (1 * 2 ^ (3 * e) * 2 ^ one) := by ring
          _ ≤ 4 * (n * 10 ^ e * 2 ^ one) := by
            have := two_pow_le_ten_pow e
            gcongr
            omega
          _ ≤ (4 * m + 2) * (1 * 2 ^ p) := high
          _ ≤ 2 ^ 55 * (1 * 2 ^ p) := Nat.mul_le_mul_right _ small
          _ = 2 ^ (55 + p) := by ring
      have places := (Nat.pow_le_pow_iff_right (by decide)).mp powers
      have := fits.power_le
      omega
    rw [← rounded]
    simp only [ofDecimal, some, few, if_false, Nat.pow_eq]
  | negSucc e =>
    rw [fraction_negSucc] at rounded low high
    have few : ¬ n.log2 + 1100 < e := by
      intro many
      have powers : 2 ^ (1 + 3 * (e + 1)) ≤ 2 ^ (2 + (n.log2 + 1) + one) := by
        calc
          2 ^ (1 + 3 * (e + 1)) = 2 * (2 ^ (3 * (e + 1)) * 1) := by ring
          _ ≤ (4 * m - below) * (10 ^ (e + 1) * 2 ^ p) := by
            have := two_pow_le_ten_pow (e + 1)
            have := Nat.one_le_two_pow (n := p)
            gcongr
          _ ≤ 4 * (n * 2 ^ one) := low
          _ ≤ 4 * (2 ^ (n.log2 + 1) * 2 ^ one) := by
            have := n.lt_log2_self.le
            gcongr
          _ = 2 ^ (2 + (n.log2 + 1) + one) := by ring
      have places := (Nat.pow_le_pow_iff_right (by decide)).mp powers
      omega
    rw [← rounded]
    simp only [ofDecimal, few, if_false, Nat.pow_eq]

/-! ### The search -/

theorem nearestEven_cases (n d : Nat) : nearestEven n d = n / d ∨ nearestEven n d = n / d + 1 := by
  unfold nearestEven
  dsimp only
  have := Nat.mod_two_eq_zero_or_one (n / d)
  grind

theorem has_of_onGrid? {i : Interval} {e : Int} {n : Nat} (h : onGrid? i e = some n) :
    n ≠ 0 ∧ i.Has n e := by
  unfold onGrid? at h
  dsimp only at h
  unfold Interval.Has
  split at h
  · next hit =>
    obtain rfl := Option.some.inj h
    simpa using hit
  · split at h
    · next hit =>
      obtain rfl := Option.some.inj h
      simpa using hit
    · cases h

theorem isSome_onGrid? {i : Interval} {e : Int}
    (h : i.Has (i.value * 10 ^ (-e).toNat / (i.denominator * 10 ^ e.toNat) + 1) e) :
    (onGrid? i e).isSome = true := by
  have nearest := nearestEven_cases (i.value * 10 ^ (-e).toNat) (i.denominator * 10 ^ e.toNat)
  unfold Interval.Has at h
  unfold onGrid? gridPoints
  dsimp only [Nat.pow_eq]
  generalize i.value * 10 ^ (-e).toNat / (i.denominator * 10 ^ e.toNat) = below at *
  obtain same | same := nearest
  · rw [same, if_pos rfl]
    split <;> simp [h]
  · simp [same, h]

theorem lt_next (a : Nat) {b : Nat} (pos : 0 < b) : a < (a / b + 1) * b ∧ (a / b + 1) * b ≤ a + b := by
  have whole := Nat.div_add_mod a b
  have rest := Nat.mod_lt a pos
  rw [Nat.add_mul, Nat.one_mul, Nat.mul_comm (a / b)]
  omega

theorem Interval.holds_of_between {i : Interval} {n d : Nat} (low : i.low * d < n * i.denominator)
    (high : n * i.denominator < i.high * d) : i.holds n d = true := by
  simp [holds, low, high, low.le, high.le]

theorem isSome_onGrid?_of_fine {i : Interval} {e : Int} (pos : 0 < i.denominator) (low : i.low ≤ i.value)
    (fine : i.value * 10 ^ (-e).toNat + i.denominator * 10 ^ e.toNat < i.high * 10 ^ (-e).toNat) :
    (onGrid? i e).isSome = true := by
  have ⟨above, near⟩ := lt_next (i.value * 10 ^ (-e).toNat) (Nat.mul_pos pos (Nat.pow_pos (n := e.toNat)
    (by decide : 0 < 10)))
  have point (n : Nat) : n * 10 ^ e.toNat * i.denominator = n * (i.denominator * 10 ^ e.toNat) := by ring
  refine isSome_onGrid? (Interval.holds_of_between ?_ ?_) <;>
    simp only [fraction, Nat.pow_eq, point]
  · exact (Nat.mul_le_mul_right _ low).trans_lt above
  · exact near.trans_lt fine

theorem ten_pow_lt_two_pow {k r : Nat} (h : 10 * k < 3 * r) : 10 ^ k < 2 ^ r := by
  refine lt_of_pow_lt_pow_left₀ 3 (by positivity) ?_
  calc
    (10 ^ k) ^ 3 = (10 ^ 3) ^ k := by rw [← pow_mul, ← pow_mul, mul_comm]
    _ ≤ (2 ^ 10) ^ k := Nat.pow_le_pow_left (by decide) k
    _ = 2 ^ (10 * k) := (pow_mul 2 10 k).symm
    _ < 2 ^ (3 * r) := Nat.pow_lt_pow_right (by decide) h
    _ = (2 ^ r) ^ 3 := by rw [mul_comm, pow_mul]

theorem two_pow_lt_ten_pow {r k : Nat} (h : 28 * r < 93 * k) : 2 ^ r < 10 ^ k := by
  refine lt_of_pow_lt_pow_left₀ 28 (by positivity) ?_
  calc
    (2 ^ r) ^ 28 = 2 ^ (28 * r) := by rw [← pow_mul, mul_comm]
    _ < 2 ^ (93 * k) := Nat.pow_lt_pow_right (by decide) h
    _ = (2 ^ 93) ^ k := pow_mul 2 93 k
    _ ≤ (10 ^ 28) ^ k := Nat.pow_le_pow_left (by decide) k
    _ = (10 ^ k) ^ 28 := by rw [← pow_mul, ← pow_mul, mul_comm]

/-- Nineteen places below an exponent that is near the logarithm, a step of the grid is less than half a
last place. -/
theorem step_lt_half_place {bits exponent : Int} {p : Nat} (low : -1100 ≤ bits) (high : bits ≤ 1100)
    (place : bits + 1021 ≤ p) (logarithm : 100000 * exponent ≤ 30103 * bits) :
    4 * unitsPerOne * 10 ^ (exponent - 19).toNat < 2 * 2 ^ p * 10 ^ (-(exponent - 19)).toNat := by
  obtain ⟨one, unit, value⟩ : ∃ k, unitsPerOne = 2 ^ k ∧ k = 1074 := ⟨1074, unitsPerOne_eq, rfl⟩
  rw [unit]
  obtain nonneg | neg := le_or_gt 19 exponent
  · obtain ⟨r, rfl⟩ : ∃ r, p = one + 1 + r := ⟨p - (one + 1), by omega⟩
    have down : (-(exponent - 19)).toNat = 0 := by omega
    have power : 10 ^ (exponent - 19).toNat < 2 ^ r := ten_pow_lt_two_pow (by omega)
    calc
      _ < 4 * 2 ^ one * 2 ^ r := Nat.mul_lt_mul_of_pos_left power (by positivity)
      _ = _ := by rw [down]; ring
  · have up : (exponent - 19).toNat = 0 := by omega
    have power : 2 ^ (one + 1 - p) < 10 ^ (-(exponent - 19)).toNat := two_pow_lt_ten_pow (by omega)
    calc
      _ ≤ 2 * 2 ^ p * 2 ^ (one + 1 - p) := by
        rw [up, mul_assoc 2 (2 ^ p), ← pow_add]
        have := Nat.pow_le_pow_right (by decide : 0 < 2) (by omega : one + 1 ≤ p + (one + 1 - p))
        rw [pow_succ] at this
        omega
      _ < _ := Nat.mul_lt_mul_of_pos_left power (by positivity)

theorem log2_mul_two_pow {n : Nat} (some : n ≠ 0) (k : Nat) : (n * 2 ^ k).log2 = n.log2 + k := by
  have ⟨low, high⟩ := (Nat.log2_eq_iff some).mp rfl
  rw [Nat.log2_eq_iff (by positivity), add_right_comm, pow_add, pow_add]
  exact ⟨Nat.mul_le_mul_right _ low, Nat.mul_lt_mul_of_pos_right high (by positivity)⟩

theorem exists_hit {m p : Nat} (fits : Canonical m p) (nonzero : m ≠ 0) :
    let i := Interval.around m p
    (onGrid? i (ceilingExponent i.value i.denominator - 21)).isSome = true := by
  intro i
  have few : m.log2 < 53 := (Nat.log2_lt nonzero).mpr fits.significand_lt
  have value : i.value.log2 = m.log2 + (p + 2) := by
    have whole : i.value = m * 2 ^ (p + 2) := by
      simp only [i, Interval.around, Nat.shiftLeft_eq]
      ring
    rw [whole, log2_mul_two_pow nonzero]
  have denominator : (4 * unitsPerOne).log2 = 1076 := by decide +kernel
  have power := fits.power_le
  refine isSome_onGrid?_of_fine ?_ ?_ ?_
  · exact Nat.mul_pos (by decide) unitsPerOne_pos
  · simp only [i, Interval.around, Nat.shiftLeft_eq]
    exact Nat.mul_le_mul_right _ (Nat.sub_le ..)
  · rw [ceilingExponent, value, show i.denominator = 4 * unitsPerOne from rfl, denominator]
    generalize bits : ((m.log2 + (p + 2) : Nat) : Int) + 1 - (1076 : Nat) = places
    have logarithm : 100000 * (places * 30103 / 100000) ≤ 30103 * places := by omega
    have step := step_lt_half_place (p := p) (by omega) (by omega) (by omega) logarithm
    have exponent : places * 30103 / 100000 + 2 - 21 = places * 30103 / 100000 - 19 := by omega
    have high : i.high = i.value + 2 * 2 ^ p := by
      simp only [i, Interval.around, Nat.shiftLeft_eq]
      ring
    rw [exponent, high, Nat.add_mul]
    exact Nat.add_lt_add_left step _

theorem has_trim {i : Interval} {x : Digits} (some : x.digits ≠ 0) (h : i.Has x.digits x.exponent)
    (fuel : Nat) : (x.trim fuel).digits ≠ 0 ∧ i.Has (x.trim fuel).digits (x.trim fuel).exponent := by
  induction fuel generalizing x with
  | zero => exact ⟨some, h⟩
  | succ fuel ih =>
    rw [Digits.trim]
    split
    · next zero =>
      have whole : x.digits = x.digits / 10 * 10 := by omega
      refine ih (x := ⟨x.digits / 10, x.exponent + 1⟩) ?_ ?_
      · dsimp only
        omega
      · rwa [whole, i.has_mul_ten] at h
    · exact ⟨some, h⟩

theorem has_shortest {m p : Nat} (fits : Canonical m p) (nonzero : m ≠ 0) :
    (shortest m p).digits ≠ 0 ∧
      (Interval.around m p).Has (shortest m p).digits (shortest m p).exponent := by
  have hit := exists_hit fits nonzero
  obtain ⟨i, around⟩ : ∃ i, Interval.around m p = i := ⟨_, rfl⟩
  dsimp only at hit
  rw [around] at hit ⊢
  generalize top : ceilingExponent i.value i.denominator = t at hit
  have last : (onGrid? i (t - (21 : Nat))).isSome = true := hit
  have isSome : ((List.range 22).findSome? fun k : Nat =>
      (onGrid? i (t - k)).map fun n => Digits.mk n (t - k)).isSome = true :=
    List.findSome?_isSome_iff.mpr ⟨21, by decide, by rw [Option.isSome_map, last]⟩
  obtain ⟨x, found⟩ := Option.isSome_iff_exists.mp isSome
  obtain ⟨k, -, some⟩ := List.exists_of_findSome?_eq_some found
  obtain ⟨n, tried, rfl⟩ := Option.map_eq_some_iff.mp some
  obtain ⟨positive, has⟩ := has_of_onGrid? tried
  have same : shortest m p = (Digits.mk n (t - k)).trim 20 := by
    unfold shortest
    dsimp only
    rw [around, top, found]
    rfl
  rw [same]
  exact has_trim positive has 20

end Decimal
end Footprint
