import Footprint.Binary64.Rounding
import Mathlib.Algebra.Ring.Parity
import Mathlib.Tactic.Linarith
import Mathlib.Tactic.Positivity
import Mathlib.Tactic.Ring
import Mathlib.Tactic.Zify

/-! Rounding of a fraction of units to the units that some double has, without a bound on their
number. It leaves what a double can hold unchanged and never reverses an order. -/
namespace Footprint

/-! ### The nearest integer -/

theorem nearestEven_spec (n : Nat) {d : Nat} (pos : 0 < d) :
    2 * n ≤ (2 * nearestEven n d + 1) * d ∧ 2 * nearestEven n d * d ≤ 2 * n + d ∧
      (2 * n = (2 * nearestEven n d + 1) * d → nearestEven n d % 2 = 0) ∧
      (2 * nearestEven n d * d = 2 * n + d → nearestEven n d % 2 = 0) := by
  have whole : n = d * (n / d) + n % d := (Nat.div_add_mod n d).symm
  have small : n % d < d := Nat.mod_lt n pos
  unfold nearestEven
  dsimp only
  generalize n / d = q at *
  generalize n % d = r at *
  have product : q * d = d * q := Nat.mul_comm q d
  split
  · refine ⟨?_, ?_, fun tie => ?_, fun tie => ?_⟩ <;>
      simp only [Nat.add_mul, Nat.mul_assoc, product] at * <;> omega
  · split
    · refine ⟨?_, ?_, fun tie => ?_, fun tie => ?_⟩ <;>
        simp only [Nat.add_mul, Nat.mul_add, Nat.mul_assoc, product] at * <;> omega
    · obtain even | odd := Nat.mod_two_eq_zero_or_one q
      · rw [even]
        refine ⟨?_, ?_, fun tie => ?_, fun tie => ?_⟩ <;>
          simp only [Nat.add_zero, Nat.add_mul, Nat.mul_assoc, product] at * <;> omega
      · rw [odd]
        refine ⟨?_, ?_, fun tie => ?_, fun tie => ?_⟩ <;>
          simp only [Nat.add_mul, Nat.mul_add, Nat.mul_assoc, product] at * <;> omega

/-- A greater fraction has no smaller nearest integer. Where the two would be neighbours in the wrong
order, both fractions are the half between them, and both integers even. -/
theorem nearestEven_le_nearestEven {a b c d : Nat} (hb : 0 < b) (hd : 0 < d) (h : a * d ≤ c * b) :
    nearestEven a b ≤ nearestEven c d := by
  obtain ⟨-, below, -, lowTie⟩ := nearestEven_spec a hb
  obtain ⟨above, -, highTie, -⟩ := nearestEven_spec c hd
  generalize nearestEven a b = k at *
  generalize nearestEven c d = l at *
  by_contra reversed
  have next : l + 1 ≤ k := by omega
  have left : 2 * k * (b * d) ≤ 2 * (a * d) + b * d := by
    calc
      2 * k * (b * d) = 2 * k * b * d := by ring
      _ ≤ (2 * a + b) * d := Nat.mul_le_mul_right d below
      _ = _ := by ring
  have right : 2 * (c * b) ≤ 2 * l * (b * d) + b * d := by
    calc
      2 * (c * b) = 2 * c * b := by ring
      _ ≤ (2 * l + 1) * d * b := Nat.mul_le_mul_right b above
      _ = _ := by ring
  have gap : 2 * l * (b * d) + 2 * (b * d) ≤ 2 * k * (b * d) := by
    rw [← Nat.add_mul]
    exact Nat.mul_le_mul_right _ (by omega)
  have onLeft : 2 * k * b = 2 * a + b := by
    refine Nat.eq_of_mul_eq_mul_right hd ?_
    calc
      2 * k * b * d = 2 * k * (b * d) := by ring
      _ = 2 * (a * d) + b * d := by omega
      _ = (2 * a + b) * d := by ring
  have onRight : 2 * c = (2 * l + 1) * d := by
    refine Nat.eq_of_mul_eq_mul_right hb ?_
    calc
      2 * c * b = 2 * (c * b) := by ring
      _ = 2 * l * (b * d) + b * d := by omega
      _ = (2 * l + 1) * d * b := by ring
  have same : 2 * k = 2 * l + 2 := by
    refine Nat.eq_of_mul_eq_mul_right (Nat.mul_pos hb hd) ?_
    rw [Nat.add_mul]
    omega
  have evenLow := lowTie onLeft
  have evenHigh := highTie onRight
  omega

/-! ### The nearest count of units -/

def unitPower (n d : Nat) : Nat := (n / d).log2 - 52

def roundedSignificand (n d : Nat) : Nat := nearestEven n (d <<< unitPower n d)

def roundedUnits (n d : Nat) : Nat := roundedSignificand n d <<< unitPower n d

private theorem scaled_pos {d : Nat} (pos : 0 < d) (p : Nat) : 0 < d <<< p := by
  rw [Nat.shiftLeft_eq]
  positivity

theorem roundedSignificand_le (n : Nat) {d : Nat} (pos : 0 < d) :
    roundedSignificand n d ≤ 2 ^ 53 := by
  have quotient : n / d < 2 ^ (53 + unitPower n d) := by
    refine Nat.lt_of_lt_of_le Nat.lt_log2_self (Nat.pow_le_pow_right (by decide) ?_)
    unfold unitPower
    omega
  have fraction : n < 2 ^ 53 * (d <<< unitPower n d) := by
    rw [Nat.shiftLeft_eq]
    calc
      n < 2 ^ (53 + unitPower n d) * d := (Nat.div_lt_iff_lt_mul pos).mp quotient
      _ = _ := by rw [pow_add]; ring
  have unit := scaled_pos pos (unitPower n d)
  rw [← nearestEven_mul (2 ^ 53) _ unit]
  exact nearestEven_le_nearestEven unit unit (Nat.mul_le_mul_right _ fraction.le)

theorem two_pow_mul_le {n d : Nat} (pos : 0 < d) (high : 0 < unitPower n d) :
    2 ^ 52 * (d <<< unitPower n d) ≤ n := by
  have nonzero : n / d ≠ 0 := by
    rintro zero
    simp [unitPower, zero] at high
  have quotient : 2 ^ (52 + unitPower n d) ≤ n / d := by
    refine Nat.le_trans (Nat.pow_le_pow_right (by decide) ?_) (Nat.log2_self_le nonzero)
    unfold unitPower at high ⊢
    omega
  rw [Nat.shiftLeft_eq]
  calc
    _ = 2 ^ (52 + unitPower n d) * d := by rw [pow_add]; ring
    _ ≤ n := (Nat.le_div_iff_mul_le pos).mp quotient

theorem le_roundedSignificand (n : Nat) {d : Nat} (pos : 0 < d) (high : 0 < unitPower n d) :
    2 ^ 52 ≤ roundedSignificand n d := by
  have unit := scaled_pos pos (unitPower n d)
  rw [← nearestEven_mul (2 ^ 52) _ unit]
  exact nearestEven_le_nearestEven unit unit (Nat.mul_le_mul_right _ (two_pow_mul_le pos high))

theorem unitPower_pos {n d : Nat} (pos : 0 < d) (h : 2 ^ 53 * d ≤ n) : 0 < unitPower n d := by
  have quotient : 2 ^ 53 ≤ n / d := (Nat.le_div_iff_mul_le pos).mpr h
  have log := (Nat.le_log2 (by omega)).mpr quotient
  unfold unitPower
  omega

/-- The relative error of the rounding: half of a last place, and the fraction has `2 ^ 52` of these. -/
theorem roundedUnits_error {n d : Nat} (pos : 0 < d) (high : 0 < unitPower n d) :
    2 ^ 53 * n ≤ 2 ^ 53 * (roundedUnits n d * d) + n ∧
      2 ^ 53 * (roundedUnits n d * d) ≤ 2 ^ 53 * n + n := by
  have places := two_pow_mul_le pos high
  obtain ⟨above, below, -, -⟩ := nearestEven_spec n (scaled_pos pos (unitPower n d))
  have whole : roundedUnits n d * d =
      nearestEven n (d <<< unitPower n d) * (d <<< unitPower n d) := by
    rw [roundedUnits, roundedSignificand, Nat.shiftLeft_eq, Nat.shiftLeft_eq]
    ring
  rw [whole]
  generalize d <<< unitPower n d = last at *
  generalize nearestEven n last = k at *
  rw [Nat.add_mul, Nat.one_mul, Nat.mul_assoc] at above
  rw [Nat.mul_assoc] at below
  generalize k * last = rounded at *
  omega

/-- Under one last place the significands keep the order; under two, a power of two lies between. -/
theorem roundedUnits_le_roundedUnits {a b c d : Nat} (hb : 0 < b) (hd : 0 < d)
    (h : a * d ≤ c * b) : roundedUnits a b ≤ roundedUnits c d := by
  have quotients : a / b ≤ c / d := by
    rw [Nat.le_div_iff_mul_le hd]
    refine Nat.le_of_mul_le_mul_right ?_ hb
    calc
      a / b * d * b = a / b * b * d := by ring
      _ ≤ a * d := Nat.mul_le_mul_right _ (Nat.div_mul_le_self a b)
      _ ≤ c * b := h
  have places : unitPower a b ≤ unitPower c d := by
    unfold unitPower
    obtain zero | nonzero := Nat.eq_zero_or_pos (a / b)
    · simp [zero]
    · have logs : (a / b).log2 ≤ (c / d).log2 :=
        (Nat.le_log2 (by omega)).mpr ((Nat.log2_self_le (by omega)).trans quotients)
      omega
  unfold roundedUnits
  simp only [Nat.shiftLeft_eq]
  obtain same | less := Nat.eq_or_lt_of_le places
  · rw [← same]
    refine Nat.mul_le_mul_right _ ?_
    unfold roundedSignificand
    rw [← same]
    refine nearestEven_le_nearestEven (scaled_pos hb _) (scaled_pos hd _) ?_
    simp only [Nat.shiftLeft_eq, ← Nat.mul_assoc]
    exact Nat.mul_le_mul_right _ h
  · calc
      _ ≤ 2 ^ 53 * 2 ^ unitPower a b := Nat.mul_le_mul_right _ (roundedSignificand_le a hb)
      _ = 2 ^ 52 * 2 ^ (unitPower a b + 1) := by rw [pow_succ]; ring
      _ ≤ 2 ^ 52 * 2 ^ unitPower c d :=
        Nat.mul_le_mul_left _ (Nat.pow_le_pow_right (by decide) less)
      _ ≤ _ := Nat.mul_le_mul_right _ (le_roundedSignificand c hd (by omega))

theorem roundedUnits_zero (d : Nat) : roundedUnits 0 d = 0 := by
  simp [roundedUnits, roundedSignificand, nearestEven]

theorem roundedUnits_mul {m : Nat} (fits : m < 2 ^ 53) (e : Nat) {d : Nat} (pos : 0 < d) :
    roundedUnits (m * 2 ^ e * d) d = m * 2 ^ e := by
  obtain rfl | nonzero := Nat.eq_zero_or_pos m
  · simp [roundedUnits_zero]
  have place : unitPower (m * 2 ^ e * d) d ≤ e := by
    have value : m * 2 ^ e < 2 ^ (53 + e) := by
      rw [pow_add]
      exact Nat.mul_lt_mul_of_pos_right fits (by positivity)
    have log := (Nat.log2_lt (by positivity)).mpr value
    rw [unitPower, Nat.mul_div_cancel _ pos]
    omega
  rw [roundedUnits, roundedSignificand]
  generalize unitPower (m * 2 ^ e * d) d = p at *
  obtain ⟨k, rfl⟩ := Nat.exists_eq_add_of_le place
  have multiple : m * 2 ^ (p + k) * d = m * 2 ^ k * (d <<< p) := by
    rw [Nat.shiftLeft_eq, pow_add]
    ring
  rw [multiple, nearestEven_mul _ _ (scaled_pos pos p), Nat.shiftLeft_eq, pow_add]
  ring

/-! ### Signed fractions within the range -/

@[irreducible] def limitUnits : Nat := 2 ^ 53 * 2 ^ 2045

def cappedUnits (n d : Nat) : Nat := min (roundedUnits n d) limitUnits

def roundRatio (n : Int) (d : Nat) : Int :=
  if n < 0 then -(cappedUnits n.natAbs d : Int) else cappedUnits n.natAbs d

theorem mul_two_pow_lt_limitUnits {m e : Nat} (fits : m < 2 ^ 53) (small : e ≤ 2045) :
    m * 2 ^ e < limitUnits := by
  unfold limitUnits
  generalize 2045 = top at small ⊢
  exact Nat.mul_lt_mul_of_lt_of_le fits (pow_le_pow_right₀ (by omega) small) (by positivity)

theorem limitUnits_pos : 0 < limitUnits := by
  unfold limitUnits
  positivity

theorem cappedUnits_zero (d : Nat) : cappedUnits 0 d = 0 := by
  rw [cappedUnits, roundedUnits_zero, Nat.zero_min]

theorem cappedUnits_le_cappedUnits {a b c d : Nat} (hb : 0 < b) (hd : 0 < d) (h : a * d ≤ c * b) :
    cappedUnits a b ≤ cappedUnits c d := by
  have := roundedUnits_le_roundedUnits hb hd h
  unfold cappedUnits
  omega

theorem roundRatio_le_roundRatio {a c : Int} {b d : Nat} (hb : 0 < b) (hd : 0 < d)
    (h : a * d ≤ c * b) : roundRatio a b ≤ roundRatio c d := by
  have pb : (0 : Int) < b := by omega
  have pd : (0 : Int) < d := by omega
  unfold roundRatio
  split <;> split
  · next ha hc =>
    have magnitudes : c.natAbs * b ≤ a.natAbs * d := by
      zify
      rw [abs_of_neg ha, abs_of_neg hc]
      linarith
    have := cappedUnits_le_cappedUnits hd hb magnitudes
    omega
  · omega
  · next ha hc =>
    have left : 0 ≤ a * d := by nlinarith
    have right : c * b < 0 := by nlinarith
    omega
  · next ha hc =>
    have magnitudes : a.natAbs * d ≤ c.natAbs * b := by
      zify
      rw [abs_of_nonneg (by omega), abs_of_nonneg (by omega)]
      exact h
    have := cappedUnits_le_cappedUnits hb hd magnitudes
    omega

theorem roundRatio_mul {u : Int} {m e : Nat} (fits : m < 2 ^ 53) (value : u.natAbs = m * 2 ^ e)
    (range : u.natAbs ≤ limitUnits) {d : Nat} (pos : 0 < d) : roundRatio (u * d) d = u := by
  have magnitude : cappedUnits (u * d).natAbs d = u.natAbs := by
    rw [Int.natAbs_mul, Int.natAbs_natCast, cappedUnits, value, roundedUnits_mul fits e pos, ← value]
    omega
  have sign : u * d < 0 ↔ u < 0 := by
    have pd : (0 : Int) < d := by omega
    constructor <;> intro <;> nlinarith
  rw [roundRatio, magnitude]
  split <;> omega

end Footprint
