import Footprint.Proofs.Binary64.Approximation
import Footprint.Proofs.Binary64.Within
import Footprint.Proofs.Meter.Totality
import Footprint.Proofs.Metrics.OneFile

/-! Carbon and energy of one record. What is measured of a file has the carbon of its own rounded energy.
Several files add up what was rounded for each, so that their carbon is off the carbon of their energy by at
most half a hundredth of a gram for each file. -/
namespace Footprint

open Binary64

namespace Binary64

theorem exists_zero_of_units {x : Binary64} (finite : x.isFinite = true) (none : x.units = 0) :
    ∃ negative, x = zero negative := by
  have magnitude := units_natAbs x
  rw [none] at magnitude
  cases x with
  | nan | infinite => cases finite
  | finite negative m p canonical =>
    rw [Binary64.magnitude, Nat.shiftLeft_eq] at magnitude
    obtain rfl : m = 0 := by
      have positive : 0 < 2 ^ p := Nat.two_pow_pos p
      exact (Nat.mul_eq_zero.mp magnitude.symm).resolve_right positive.ne'
    obtain rfl : p = 0 := canonical.normal.resolve_left (by decide)
    exact ⟨negative, rfl⟩

/-- The bound at zero changes no number that is not negative, but for the sign of a zero, and that does
not show in the rounding. -/
theorem roundHalfUp_max_zero {x : Binary64} (nonneg : 0 ≤ x) :
    (Binary64.max 0 x).roundHalfUp (2 : ℕ) = x.roundHalfUp (2 : ℕ) := by
  by_cases positive : (0 : Binary64) < x
  · rw [Binary64.max, if_pos positive]
  · have number := (ne_nan_of_le nonneg).2
    have order := rank_le_of_le (le_of_not_lt (ne_nan_of_isFinite zero_spec.1) number positive)
    obtain rfl | finite := nonneg_cases nonneg
    · exact absurd (by decide +kernel) positive
    · rw [rank_of_isFinite finite, rank_of_isFinite zero_spec.1, zero_spec.2.1] at order
      have least := rank_nonneg nonneg
      rw [rank_of_isFinite finite] at least
      obtain ⟨negative, rfl⟩ := exists_zero_of_units finite (le_antisymm order least)
      cases negative <;> decide +kernel

theorem mul_nonneg_of_isFinite {x y : Binary64} (hx : 0 ≤ x) (fx : x.isFinite = true) (hy : 0 ≤ y)
    (fy : y.isFinite = true) : 0 ≤ x * y := by
  obtain ⟨rank, number⟩ := rank_mul fx fy
  have left := rank_nonneg hx
  have right := rank_nonneg hy
  rw [rank_of_isFinite fx] at left
  rw [rank_of_isFinite fy] at right
  rw [zero_le_iff number, rank]
  exact roundRatio_nonneg (Int.mul_nonneg left right) _

theorem le_sum_of_mem {terms : List Binary64} (nonneg : ∀ x ∈ terms, 0 ≤ x) :
    ∀ x ∈ terms, x ≤ sum terms := by
  induction terms using List.reverseRecOn with
  | nil => simp
  | append_singleton terms y ih =>
    have earlier : ∀ x ∈ terms, 0 ≤ x := fun x hx => nonneg x (List.mem_append_left _ hx)
    obtain ⟨left, right⟩ := le_add (sum_nonneg earlier) (nonneg y (by simp))
    intro x hx
    rw [sum_append_singleton]
    rcases List.mem_append.mp hx with inTerms | last
    · exact le_trans' (ih earlier x inTerms) left
    · obtain rfl := List.mem_singleton.mp last
      exact right

/-- A sum whose rounding is below a limit that rounding keeps is below it itself, and so is each term. -/
theorem lt_of_roundHalfUp_sum {terms : List Binary64} {a limit : Binary64} {places : ℕ}
    (nonneg : ∀ x ∈ terms, 0 ≤ x) (fixed : limit.roundHalfUp places = .ok limit)
    (rounded : (sum terms).roundHalfUp places = .ok a) (small : a < limit) :
    sum terms < limit ∧ ∀ x ∈ terms, x < limit := by
  have total := (ne_nan_of_le (sum_nonneg nonneg)).2
  have bound : limit ≠ nan := by
    rintro rfl
    exact not_lt_nan _ small
  have below : sum terms < limit := by
    by_contra above
    have order := roundHalfUp_le_roundHalfUp (le_of_not_lt total bound above) fixed rounded
    have same := lt_of_lt_of_le' small order
    exact absurd ((lt_iff_rank (ne_nan_of_le order).2 (ne_nan_of_le order).2).mp same) (lt_irrefl _)
  exact ⟨below, fun x hx => lt_of_le_of_lt' (le_sum_of_mem nonneg x hx) below⟩

end Binary64

namespace Metrics

def shownCarbon (m : Metrics) : Except ArithmeticError Binary64 := do
  (m.energy * (← ofInt? m.gridIntensity)).roundHalfUp 2

def CarbonMatches (m : Metrics) : Prop := m.shownCarbon = .ok m.carbon

theorem carbonMatches_iff {m : Metrics} : m.CarbonMatches ↔
    (ofInt m.gridIntensity).isFinite = true ∧
      (m.energy * ofInt m.gridIntensity).roundHalfUp (2 : ℕ) = .ok m.carbon := by
  constructor
  · intro h
    obtain ⟨grid, gridOk, rounded⟩ := exists_of_bind_eq_ok h
    obtain ⟨rfl, finite⟩ := isFinite_of_refuseInfinite (rank_ofInt _).2 gridOk
    exact ⟨finite, rounded⟩
  · rintro ⟨bounded, rounded⟩
    exact bind_eq_ok_of (refuseInfinite_of_isFinite _ bounded) rounded

theorem carbonMatches_of_measure {meter : Meter} {clock : Int} {c : Conditions} {u : SourceUnit}
    {m : Measurement} (h : (meter.measure clock c u).outcome = .ok m)
    (grid : 0 ≤ m.metrics.gridIntensity) : m.metrics.CarbonMatches := by
  have range := Meter.inRange_of_measure h
  obtain ⟨-, -, size, lines, -, -, figures⟩ := Meter.measure_eq_ok_iff.mp h
  obtain ⟨intensity, intensityOk, rounded⟩ := exists_of_bind_eq_ok figures.carbon
  obtain ⟨rfl, finite⟩ := isFinite_of_refuseInfinite (rank_ofInt _).2 intensityOk
  have nonneg : 0 ≤ ofInt m.metrics.gridIntensity := by
    obtain ⟨rank, number⟩ := rank_ofInt m.metrics.gridIntensity
    rw [zero_le_iff number, rank]
    exact roundRatio_nonneg (Int.mul_nonneg grid (Int.natCast_nonneg _)) _
  have product := mul_nonneg_of_isFinite range.energy_nonneg range.energy_finite nonneg finite
  exact carbonMatches_iff.mpr ⟨finite, (roundHalfUp_max_zero product).symm.trans rounded⟩

/-! ### Counts -/

/-- Thousandths of a kWh and hundredths of a gram, off the grid by half a hundredth for each file. -/
structure Near (grid energy carbon files : ℕ) : Prop where
  low : grid * energy ≤ 10 * carbon + 5 * files
  high : 10 * carbon ≤ grid * energy + 5 * files

theorem near_sum {α : Type} {xs : List α} {grid : ℕ} {energy carbon : α → ℕ}
    (each : ∀ x ∈ xs, Near grid (energy x) (carbon x) 1) :
    Near grid (xs.map energy).sum (xs.map carbon).sum xs.length := by
  induction xs with
  | nil => exact ⟨le_rfl, le_rfl⟩
  | cons x xs ih =>
    obtain ⟨low, high⟩ := each x List.mem_cons_self
    obtain ⟨lows, highs⟩ := ih fun y hy => each y (List.mem_cons_of_mem _ hy)
    rw [List.map_cons, List.map_cons, List.sum_cons, List.sum_cons, List.length_cons]
    constructor
    · linarith
    · linarith

theorem exists_near_of_carbonMatches {m : Metrics} {grid energy : ℕ} (shown : m.CarbonMatches)
    (intensity : m.gridIntensity = grid) (low : grid ≤ 2 ^ 10) (decimal : m.energy.IsDecimal 3 energy)
    (small : energy ≤ 2 ^ 30) : ∃ carbon, m.carbon.IsDecimal 2 carbon ∧ Near grid energy carbon 1 := by
  obtain ⟨finite, rounded⟩ := carbonMatches_iff.mp shown
  rw [intensity] at finite rounded
  have exact := toRat_natCast (n := grid) (by omega)
  rw [natCast_eq_ofInt] at exact
  have product : energy * grid ≤ 2 ^ 40 := (Nat.mul_le_mul small low).trans (by norm_num)
  have ordinary := ordinary_ratio (n := energy * grid) (d := decimalScale 3) (by decide) (by decide)
    (product.trans (by norm_num))
  rw [Nat.cast_mul, mul_div_right_comm] at ordinary
  obtain ⟨carbon, carbonOk, least, most⟩ := (decimal.approximates.mul finite exact (Nat.cast_nonneg _)
    (by norm_num) ordinary).roundHalfUp_of_fraction (n := energy * grid) (d := 10)
    (show decimalScale 2 ≤ 2 ^ 10 by decide) (by decide) (by
      have thousand : decimalScale 3 = 1000 := rfl
      have hundred : decimalScale 2 = 100 := rfl
      rw [thousand, hundred]
      push_cast
      ring) (by omega)
  have same := Except.ok.inj (rounded.symm.trans carbonOk)
  have places : decimalScale 2 ≤ 2 ^ 10 := by decide
  refine ⟨carbon, ⟨by omega, places, same, ?_⟩, ?_⟩
  · rw [same]
    exact (approximates_ofRatio (decimalScale_pos 2) (by decide) (by omega)).isFinite
  · constructor
    · rw [mul_comm]
      omega
    · rw [mul_comm grid]
      omega

/-! ### Several files -/

def energyLimit : Binary64 := ofInt 10000

theorem energyLimit_spec :
    energyLimit.UpTo 40 ∧ energyLimit.toRat = 10000 ∧
      (energyLimit.roundHalfUp (3 : ℕ)).toOption = some energyLimit := by
  decide +kernel

theorem toRat_le_of_lt {x : Binary64} (finite : x.isFinite = true) (small : x < energyLimit) :
    x.toRat ≤ 10000 := by
  obtain ⟨limit, value, -⟩ := energyLimit_spec
  rw [← value]
  exact toRat_le_toRat finite (limit.isFinite (by omega)) (le_of_lt' small)

structure Metered (grid : ℕ) (m : Metrics) : Prop where
  gridIntensity : m.gridIntensity = grid
  energy : ∃ raw : Binary64, 0 ≤ raw ∧ raw.roundHalfUp (3 : ℕ) = .ok m.energy
  carbon : ∃ raw : Binary64, 0 ≤ raw ∧ raw.roundHalfUp (2 : ℕ) = .ok m.carbon
  matched : m.CarbonMatches

theorem Metered.energy_nonneg {grid : ℕ} {m : Metrics} (h : m.Metered grid) : 0 ≤ m.energy := by
  obtain ⟨raw, nonneg, rounded⟩ := h.energy
  exact nonneg_of_roundHalfUp nonneg rounded

theorem Metered.exists_counts {grid : ℕ} {m : Metrics} (h : m.Metered grid) (low : grid ≤ 2 ^ 10)
    (small : m.energy < energyLimit) :
    ∃ energy carbon, m.energy.IsDecimal 3 energy ∧ m.carbon.IsDecimal 2 carbon ∧ energy ≤ 10 ^ 7 ∧
      Near grid energy carbon 1 := by
  obtain ⟨raw, nonneg, rounded⟩ := h.energy
  obtain ⟨energy, decimal⟩ := isDecimal_of_roundHalfUp nonneg (by decide)
    (energyLimit_spec.1.of_le h.energy_nonneg (le_of_lt' small)) rounded
  have value := toRat_le_of_lt decimal.isFinite small
  have count : energy ≤ 10 ^ 7 := by
    have thousand : decimalScale 3 = 1000 := rfl
    refine decimal.count_le ?_ (by norm_num)
    rw [thousand]
    push_cast
    linarith
  obtain ⟨carbon, carbonDecimal, near⟩ :=
    exists_near_of_carbonMatches h.matched h.gridIntensity low decimal (count.trans (by norm_num))
  exact ⟨energy, carbon, decimal, carbonDecimal, count, near⟩

theorem sum_counts_le {α : Type} {xs : List α} {f : α → Binary64} {count : α → ℕ}
    (decimals : ∀ x ∈ xs, (f x).IsDecimal 3 (count x)) (each : ∀ x ∈ xs, count x ≤ 10 ^ 7)
    (few : xs.length < 2 ^ 16) (small : sum (xs.map f) < energyLimit) :
    (xs.map count).sum ≤ 2 * 10 ^ 7 := by
  have bounded := List.sum_le_card_nsmul (xs.map count) (10 ^ 7) (by
    intro n hn
    obtain ⟨x, hx, rfl⟩ := List.mem_map.mp hn
    exact each x hx)
  rw [List.length_map, nsmul_eq_mul, Nat.cast_id] at bounded
  have total := approximates_sum_of_isDecimal decimals (by omega) (by omega)
  generalize (xs.map count).sum = counts at total ⊢
  have value := toRat_le_of_lt total.isFinite small
  have near := (abs_le.mp total.error).1
  have parts : ((xs.length + 1 : ℕ) : ℚ) ≤ 2 ^ 16 := by exact_mod_cast (show xs.length + 1 ≤ 2 ^ 16 by omega)
  have thousand : decimalScale 3 = 1000 := rfl
  rw [thousand] at near
  have nonneg : (0 : ℚ) ≤ counts / 1000 := by positivity
  have share : ((xs.length + 1 : ℕ) : ℚ) * (counts / (1000 : ℕ)) / 2 ^ 52 ≤ counts / 1000 / 2 := by
    push_cast at parts ⊢
    rw [div_le_div_iff₀ (by positivity) (by positivity)]
    nlinarith
  have limit : (counts : ℚ) ≤ 2 * 10 ^ 7 := by
    push_cast at near share
    linarith
  exact_mod_cast limit

/-- The figures of several files together are the sums of the counts of each, and so the carbon is off that
of the energy by half a hundredth for each. -/
theorem exists_near_of_aggregate {all : List Metrics} {m : Metrics} {grid : ℕ} (h : aggregate all = .ok m)
    (low : grid ≤ 2 ^ 10) (few : all.length < 2 ^ 16) (each : ∀ x ∈ all, x.Metered grid)
    (small : m.energy < energyLimit) :
    ∃ energy carbon : ℕ, m.energy = ofRatio energy 1000 ∧ m.carbon = ofRatio carbon 100 ∧
      Near grid energy carbon all.length := by
  cases all with
  | nil => cases h
  | cons first rest =>
    have figures := aggregate_eq_ok_iff.mp h
    have nonneg : ∀ y ∈ (first :: rest).map Metrics.energy, 0 ≤ y := by
      intro y hy
      obtain ⟨x, hx, rfl⟩ := List.mem_map.mp hy
      exact (each x hx).energy_nonneg
    obtain ⟨below, below_each⟩ := lt_of_roundHalfUp_sum nonneg
      (eq_ok_of_toOption energyLimit_spec.2.2) figures.energy small
    have counted := fun x hx => (each x hx).exists_counts low (below_each _ (List.mem_map_of_mem hx))
    choose! energy carbon spec using counted
    have near := near_sum fun x hx => (spec x hx).2.2.2
    have energySum := sum_counts_le (fun x hx => (spec x hx).1) (fun x hx => (spec x hx).2.2.1) few below
    have product : grid * ((first :: rest).map energy).sum ≤ 2 ^ 10 * (2 * 10 ^ 7) :=
      Nat.mul_le_mul low energySum
    have carbonSum : ((first :: rest).map carbon).sum ≤ 2 ^ 31 := by
      have high := near.high
      omega
    have small {total : ℕ} (bound : total ≤ 2 ^ 31) :
        ((first :: rest).length + 3) * (2 * total + 1) ≤ 2 ^ 51 := by
      have factors := Nat.mul_le_mul (show (first :: rest).length + 3 ≤ 2 ^ 17 by omega)
        (show 2 * total + 1 ≤ 2 ^ 33 by omega)
      exact factors.trans (by norm_num)
    have energyOk := roundHalfUp_sum_of_isDecimal (fun x hx => (spec x hx).1) (by decide)
      (small (energySum.trans (by norm_num)))
    have carbonOk := roundHalfUp_sum_of_isDecimal (fun x hx => (spec x hx).2.1) (by decide)
      (small carbonSum)
    exact ⟨_, _, Except.ok.inj (figures.energy.symm.trans energyOk),
      Except.ok.inj (figures.carbon.symm.trans carbonOk), near⟩

end Metrics
end Footprint
