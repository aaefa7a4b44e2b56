import Footprint.Proofs.Binary64.Deviation
import Footprint.Proofs.Binary64.Within
import Footprint.Proofs.Projection.Range

/-! The trees of the periods. All periods stand for one yearly amount, but each reaches it by products and
quotients of its own, which are rounded on the way. So their counts are ceilings of numbers that lie within
six parts of one exact number: they agree unless a whole number is as near to it, and then they may differ
by one. -/
namespace Footprint

open Binary64

namespace Projection

variable {m : Metrics} {given perDay : Int} {period : Period} {carbon : Binary64}

/-! ### The exact number -/

def yearlyTrees (carbon : Binary64) (perDay : Int) : ℚ :=
  carbon.toRat * perDay * 365 / 1000 / treeKgPerYear.toRat

def slack (trees : ℚ) : ℚ := 6 * (trees + 1) / 2 ^ 52

theorem treeKgPerYear_eq : treeKgPerYear = ofRatio 2177 100 := by decide +kernel

theorem treeKgPerYear_approximates : treeKgPerYear.Approximates (2177 / 100) 1 := by
  rw [treeKgPerYear_eq]
  exact approximates_ofRatio (n := 2177) (d := 100) (by norm_num) (by norm_num) (by norm_num)

theorem treeKgPerYear_between : 21 < treeKgPerYear.toRat ∧ treeKgPerYear.toRat < 22 := by
  have near := abs_le.mp treeKgPerYear_approximates.error
  norm_num at near
  constructor <;> linarith

theorem perYear_deviates (period : Period) :
    period.perYear.Deviates (365 / period.days) (365 / period.days) 1 := by
  have few : period.days.toNat ≤ 2 ^ 100 := by cases period <;> decide
  have pos := period.days_pos
  have natural : ((period.days.toNat : ℕ) : ℚ) = period.days := by
    exact_mod_cast Int.toNat_of_nonneg pos.le
  have ratio := approximates_ofRatio (n := 365) (d := period.days.toNat) (by omega) few (by norm_num)
  rw [natural] at ratio
  exact .of_approximates ratio (toRat_nonneg_iff.mpr period.perYear_pos.le)

theorem abs_yearlyTrees_sub_le {count : ℕ} (decimal : carbon.IsDecimal 2 count) (nonneg : 0 ≤ perDay) :
    |yearlyTrees carbon perDay - 73 * (count * perDay) / 435400| ≤
      3 * (73 * (count * perDay) / 435400) / 2 ^ 52 := by
  have scale : decimalScale 2 = 100 := rfl
  have factor : (0 : ℚ) ≤ perDay := Int.cast_nonneg nonneg
  have size : (0 : ℚ) ≤ count := Nat.cast_nonneg count
  have numerator := decimal.approximates.error
  have divisor := treeKgPerYear_approximates.error
  obtain ⟨low, -⟩ := treeKgPerYear_between
  rw [scale] at numerator
  rw [yearlyTrees]
  generalize treeKgPerYear.toRat = t at low divisor ⊢
  generalize carbon.toRat = c at numerator ⊢
  have positive : 0 < t := by linarith
  have cross : |c * (2177 / 100) - count / 100 * t| ≤ 2 * (count / 100 * (2177 / 100)) / 2 ^ 52 := by
    calc
      |c * (2177 / 100) - count / 100 * t|
          ≤ |c - count / 100| * (2177 / 100) + count / 100 * |2177 / 100 - t| :=
        abs_mul_sub_mul_le (by positivity) (by positivity)
      _ ≤ 2 * (count / 100 * (2177 / 100)) / 2 ^ 52 := by
        rw [abs_sub_comm (2177 / 100)]
        push_cast at numerator divisor
        nlinarith
  have whole : c * perDay * 365 / 1000 / t - 73 * (count * perDay) / 435400 =
      (c * (2177 / 100) - count / 100 * t) * (perDay * 365 / 1000 / (t * (2177 / 100))) := by
    field_simp
    ring
  rw [whole, abs_mul, abs_of_nonneg (by positivity : 0 ≤ perDay * 365 / 1000 / (t * (2177 / 100)))]
  calc
    _ ≤ 2 * (count / 100 * (2177 / 100)) / 2 ^ 52 * (perDay * 365 / 1000 / (t * (2177 / 100))) := by gcongr
    _ = 2 * (count / 100) * perDay * (365 / 1000) / 2 ^ 52 / t := by field_simp
    _ ≤ 2 * (count / 100) * perDay * (365 / 1000) / 2 ^ 52 / 21 := by gcongr
    _ ≤ 3 * (73 * (count * perDay) / 435400) / 2 ^ 52 := by
      have product : (0 : ℚ) ≤ count * perDay := by positivity
      linarith

theorem yearlyTrees_nonneg (finite : carbon.isFinite = true) (low : 0 ≤ carbon) (nonneg : 0 ≤ perDay) :
    0 ≤ yearlyTrees carbon perDay := by
  have grams := toRat_nonneg low finite
  have tree : 0 < treeKgPerYear.toRat := by linarith [treeKgPerYear_between.1]
  have factor : (0 : ℚ) ≤ perDay := Int.cast_nonneg nonneg
  rw [yearlyTrees]
  generalize treeKgPerYear.toRat = t at tree ⊢
  positivity

/-! ### What a period computes -/

def gramsPerTree (period : Period) : ℚ := 1000 * treeKgPerYear.toRat * period.days / 365

theorem le_gramsPerTree (period : Period) : 57 ≤ gramsPerTree period := by
  have one : (1 : ℚ) ≤ period.days := by exact_mod_cast period.days_pos
  obtain ⟨low, -⟩ := treeKgPerYear_between
  calc
    (57 : ℚ) ≤ 1000 * treeKgPerYear.toRat * 1 / 365 := by linarith
    _ ≤ gramsPerTree period := by
      rw [gramsPerTree]
      gcongr

theorem yearlyTrees_add (carbon : Binary64) (perDay : Int) (period : Period) (more : ℚ) :
    (carbon.toRat * (perDay * period.days : Int) + more * gramsPerTree period) / 1000 /
        treeKgPerYear.toRat * (365 / period.days) = yearlyTrees carbon perDay + more := by
  have days : (0 : ℚ) < period.days := Int.cast_pos.mpr period.days_pos
  have tree : 0 < treeKgPerYear.toRat := by linarith [treeKgPerYear_between.1]
  rw [yearlyTrees, gramsPerTree]
  push_cast
  field_simp

theorem treesFor_deviates (finite : carbon.isFinite = true) (low : 0 ≤ carbon) (nonneg : 0 ≤ perDay)
    (counted : (ofInt (perDay * period.days)).isFinite = true)
    (kilograms : (amount carbon perDay period).UpTo kilogramBits) :
    (treesFor (amount carbon perDay period) period).Deviates (yearlyTrees carbon perDay)
      (yearlyTrees carbon perDay + 1) 6 := by
  obtain ⟨-, -, -, -, ⟨treeFinite, divisor⟩, -, -, -, perYear⟩ := comparison_constants
  have kgFinite := kilograms.isFinite (by decide)
  have trees := UpTo.div_two_pow (k := 1011) (j := 4) kilograms kgFinite (by decide) treeFinite divisor
  have years := (trees.mul (perYear period) (by decide)).isFinite (by decide)
  have product := isFinite_of_div thousand_spec.1 thousand_spec.2.1 kgFinite
  have tree : 0 < treeKgPerYear.toRat := by linarith [treeKgPerYear_between.1]
  have thousand : (1000 : Binary64).toRat = 1000 := toRat_natCast (n := 1000) (by norm_num)
  have times := deviates_ofInt (Int.mul_nonneg nonneg period.days_pos.le) counted
  have grams := Deviates.of_isFinite finite (toRat_nonneg low finite)
  have gramsLow : 0 ≤ carbon.toRat * (perDay * period.days : Int) := Left.mul_nonneg grams.low times.nonneg
  have large := le_gramsPerTree period
  -- The size is one tree more than the value, so that it is not near zero at any step.
  have first := grams.mul times product (by norm_num)
    (le_add_of_nonneg_right (by linarith : 0 ≤ 1 * gramsPerTree period)) (by rw [Sizeable]; linarith)
  have second := first.div thousand_spec.1 thousand_spec.2.1 kgFinite (by norm_num)
    (by rw [thousand, Sizeable]; linarith)
  rw [thousand] at second
  have third := second.div treeFinite treeKgPerYear_spec.2 (trees.isFinite (by decide)) (by norm_num) (by
    rw [Sizeable, ← mul_div_assoc, le_div_iff₀ tree]
    linarith [treeKgPerYear_between.2])
  have total := yearlyTrees_nonneg finite low nonneg
  have fourth := third.mul (perYear_deviates period) years (by norm_num)
    (yearlyTrees_add carbon perDay period 1).le (by rw [Sizeable]; linarith)
  have value := yearlyTrees_add carbon perDay period 0
  rw [zero_mul, add_zero, add_zero] at value
  rwa [value] at fourth

structure Counts (trees : ℚ) (count : Int) : Prop where
  low : max 1 ⌈trees - slack trees⌉ ≤ count
  high : count ≤ max 1 ⌈trees + slack trees⌉

namespace Counts

variable {trees : ℚ} {count other : Int}

theorem one_le (h : Counts trees count) : 1 ≤ count := (le_max_left _ _).trans h.low

theorem eq_of_clear (h : Counts trees count) (nonneg : 0 ≤ trees)
    (clear : ∀ n : ℕ, 1 ≤ n → slack trees < |trees - n|) : count = max 1 ⌈trees⌉ := by
  have some : 0 ≤ slack trees := by
    rw [slack]
    positivity
  have below : ⌈trees - slack trees⌉ ≤ ⌈trees⌉ := Int.ceil_mono (by linarith)
  have above : ⌈trees⌉ ≤ ⌈trees + slack trees⌉ := Int.ceil_mono (by linarith)
  have squeezed : ⌈trees + slack trees⌉ ≤ max 1 ⌈trees - slack trees⌉ := by
    by_contra outside
    obtain ⟨more, apart⟩ := max_lt_iff.mp (not_le.mp outside)
    obtain ⟨n, whole⟩ := Int.eq_ofNat_of_zero_le (show 0 ≤ ⌈trees + slack trees⌉ - 1 by omega)
    have cast : (n : ℚ) = (⌈trees + slack trees⌉ : ℚ) - 1 := by exact_mod_cast whole.symm
    have left : trees - slack trees ≤ n := by
      rw [cast]
      exact (Int.le_ceil _).trans (by exact_mod_cast (by omega : ⌈trees - slack trees⌉ ≤ _ - 1))
    have right : (n : ℚ) < trees + slack trees := by linarith [Int.ceil_lt_add_one (trees + slack trees)]
    have near : |trees - n| ≤ slack trees := abs_le.mpr ⟨by linarith, by linarith⟩
    exact absurd near (not_le.mpr (clear n (by omega)))
  have low := h.low
  have high := h.high
  omega

theorem le_add_one (h : Counts trees count) (k : Counts trees other) (moderate : trees ≤ 2 ^ 48) :
    count ≤ other + 1 := by
  have half : slack trees ≤ 1 / 2 := by
    rw [slack, div_le_iff₀ (by positivity)]
    linarith
  have next : ⌈trees + slack trees⌉ ≤ ⌈trees - slack trees⌉ + 1 := by
    rw [← Int.ceil_add_one]
    exact Int.ceil_mono (by linarith)
  have low := k.low
  have high := h.high
  omega

end Counts

theorem Summarizes.counts {s : ProjectionSummary} {projected : Period → Projection}
    (h : Summarizes s m given projected) (finite : m.carbon.isFinite = true) (low : 0 ≤ m.carbon)
    (period : Period) :
    Counts (yearlyTrees m.carbon (executionsPerDay given)) (projected period).trees := by
  have isFor := h.each period
  obtain ⟨kilograms, -, -⟩ := h.bounds finite low period
  have planted := isFor.trees
  rw [isFor.co2] at kilograms planted
  rw [treesToOffset_eq] at planted
  obtain ⟨count, counted, same⟩ := exists_of_map_eq_ok planted
  obtain ⟨-, rfl⟩ := ceil?_eq_ok_iff_toRat.mp counted
  have nonneg : 0 ≤ executionsPerDay given := le_max_left 0 given
  have near := (treesFor_deviates finite low nonneg isFor.counted kilograms).error
  push_cast at near
  obtain ⟨below, above⟩ := abs_le.mp near
  rw [← same]
  constructor
  · exact max_le_max_left 1 (Int.ceil_mono (by rw [slack]; linarith))
  · exact max_le_max_left 1 (Int.ceil_mono (by rw [slack]; linarith))

/-! ### Growth -/

theorem amount_le_amount {carbon' : Binary64} {perDay' : Int} (low : 0 ≤ carbon) (le : carbon ≤ carbon')
    (finite : carbon'.isFinite = true) (nonneg : 0 ≤ perDay) (more : perDay ≤ perDay')
    (counted : (ofInt (perDay' * period.days)).isFinite = true) :
    amount carbon perDay period ≤ amount carbon' perDay' period := by
  have days := period.days_pos.le
  have least : 0 ≤ ofInt (perDay * period.days) :=
    ofRatio_le_ofRatio (Int.mul_nonneg nonneg days) Nat.one_pos
  have times : ofInt (perDay * period.days) ≤ ofInt (perDay' * period.days) :=
    ofRatio_le_ofRatio (Int.mul_le_mul_of_nonneg_right more days) Nat.one_pos
  exact div_le_div_right (mul_le_mul_of_isFinite low le least times finite counted) thousand_spec.1
    thousand_spec.2.1

theorem trees_le_trees {kg kg' : Binary64} (le : kg ≤ kg') {trees trees' : Int}
    (planted : treesToOffset kg period.days = .ok trees)
    (planted' : treesToOffset kg' period.days = .ok trees') : trees ≤ trees' := by
  rw [treesToOffset_eq] at planted planted'
  obtain ⟨count, counted, rfl⟩ := exists_of_map_eq_ok planted
  obtain ⟨count', counted', rfl⟩ := exists_of_map_eq_ok planted'
  have order : treesFor kg period ≤ treesFor kg' period :=
    mul_le_mul_right (div_le_div_right le treeKgPerYear_spec.1 treeKgPerYear_spec.2) period.isFinite_perYear
      period.perYear_pos
  exact max_le_max_left 1 (ceil?_le_ceil? order counted counted')

/-! ### Carbon of two decimals -/

/-- A fraction that is no whole number is at least one part of its denominator away from each. -/
theorem le_abs_fraction_sub {amount : Int} (apart : ¬ (435400 : Int) ∣ amount) (n : Int) :
    1 / 435400 ≤ |73 * (amount : ℚ) / 435400 - n| := by
  have nonzero : 73 * amount - 435400 * n ≠ 0 := by omega
  have one : (1 : ℚ) ≤ |73 * (amount : ℚ) - 435400 * n| := by
    exact_mod_cast Int.one_le_abs nonzero
  have whole : 73 * (amount : ℚ) / 435400 - n = (73 * amount - 435400 * n) / 435400 := by
    field_simp
  rw [whole, abs_div, abs_of_pos (by norm_num : (0 : ℚ) < 435400)]
  gcongr

/-- Unless the hundredths of a day are a multiple of the denominator, no whole number is near. -/
theorem clear_of_isDecimal {count : ℕ} (decimal : carbon.IsDecimal 2 count) (nonneg : 0 ≤ perDay)
    (few : count * perDay ≤ 2 ^ 40) (apart : ¬ (435400 : Int) ∣ count * perDay) :
    (∀ n : ℕ, 1 ≤ n → slack (yearlyTrees carbon perDay) < |yearlyTrees carbon perDay - n|) ∧
      max 1 ⌈yearlyTrees carbon perDay⌉ = ⌈73 * (count * perDay : ℚ) / 435400⌉ := by
  have error := abs_yearlyTrees_sub_le decimal nonneg
  have gap := le_abs_fraction_sub apart
  have some : 0 < (count * perDay : Int) :=
    (Int.mul_nonneg (Int.natCast_nonneg _) nonneg).lt_of_ne fun none => apart ⟨0, by omega⟩
  have most : (count * perDay : ℚ) ≤ 2 ^ 40 := by exact_mod_cast few
  have least : (0 : ℚ) < count * perDay := by exact_mod_cast some
  push_cast at gap
  generalize (count * perDay : ℚ) = amount at error gap most least ⊢
  generalize yearlyTrees carbon perDay = trees at error ⊢
  have small : slack trees + |trees - 73 * amount / 435400| < 1 / 435400 := by
    have near := (abs_le.mp error).2
    rw [slack]
    linarith
  constructor
  · intro n _
    have distance := gap n
    have step : |73 * amount / 435400 - n| ≤ |trees - 73 * amount / 435400| + |trees - n| := by
      rw [abs_sub_comm trees (73 * amount / 435400)]
      exact abs_sub_le _ _ _
    push_cast at distance
    linarith
  · have whole : ⌈trees⌉ = ⌈73 * amount / 435400⌉ := by
      have above := gap ⌈73 * amount / 435400⌉
      have below := gap (⌈73 * amount / 435400⌉ - 1)
      have least := Int.le_ceil (73 * amount / 435400)
      have next := Int.ceil_lt_add_one (73 * amount / 435400)
      push_cast at below
      rw [abs_of_nonpos (by linarith)] at above
      rw [abs_of_nonneg (by linarith)] at below
      have tiny : 3 * (73 * amount / 435400) / 2 ^ 52 < 1 / 435400 := by linarith
      obtain ⟨low, high⟩ := abs_lt.mp (error.trans_lt tiny)
      exact Int.ceil_eq_iff.mpr ⟨by linarith, by linarith⟩
    rw [whole]
    exact max_eq_right (Int.one_le_ceil_iff.mpr (by positivity))

/-! ### Summaries -/

structure TreesOf (s : ProjectionSummary) (carbon : Binary64) (perDay : Int) : Prop where
  periods : s.projections.map Projection.period = Period.all
  one_le : ∀ p ∈ s.projections, 1 ≤ p.trees
  counts : ∀ p ∈ s.projections, Counts (yearlyTrees carbon perDay) p.trees
  /-- They are the same where no whole number is near the exact one. -/
  same : (∀ n : ℕ, 1 ≤ n → slack (yearlyTrees carbon perDay) < |yearlyTrees carbon perDay - n|) →
    ∀ p ∈ s.projections, p.trees = max 1 ⌈yearlyTrees carbon perDay⌉
  /-- For hundredths of a gram, they are the same unless the exact number is whole. -/
  decimal (count : ℕ) : carbon.IsDecimal 2 count → count * perDay ≤ 2 ^ 40 →
    ¬ (435400 : Int) ∣ count * perDay →
    ∀ p ∈ s.projections, p.trees = ⌈73 * (count * perDay : ℚ) / 435400⌉
  close : yearlyTrees carbon perDay ≤ 2 ^ 48 →
    ∀ p ∈ s.projections, ∀ q ∈ s.projections, p.trees ≤ q.trees + 1

theorem Summarizes.exists_of_mem {s : ProjectionSummary} {projected : Period → Projection}
    (h : Summarizes s m given projected) {p : Projection} (member : p ∈ s.projections) :
    ∃ period, projected period = p := by
  rw [h.projections] at member
  obtain ⟨period, -, same⟩ := List.mem_map.mp member
  exact ⟨period, same⟩

theorem Summarizes.treesOf {s : ProjectionSummary} {projected : Period → Projection}
    (h : Summarizes s m given projected) (finite : m.carbon.isFinite = true) (low : 0 ≤ m.carbon) :
    TreesOf s m.carbon (executionsPerDay given) := by
  have nonneg : 0 ≤ executionsPerDay given := le_max_left 0 given
  have total := yearlyTrees_nonneg finite low nonneg
  have counts : ∀ p ∈ s.projections, Counts (yearlyTrees m.carbon (executionsPerDay given)) p.trees := by
    intro p member
    obtain ⟨period, rfl⟩ := h.exists_of_mem member
    exact h.counts finite low period
  refine ⟨?_, fun p member => (counts p member).one_le, counts, fun clear p member =>
    (counts p member).eq_of_clear total clear, fun count decimal few apart p member => ?_,
    fun moderate p hp q hq => (counts p hp).le_add_one (counts q hq) moderate⟩
  · rw [h.projections, List.map_map]
    exact List.map_id'' (fun period => (h.each period).period_eq) _
  · obtain ⟨clear, ceiling⟩ := clear_of_isDecimal decimal nonneg few apart
    rw [(counts p member).eq_of_clear total clear, ceiling]

/-- For every summary, the periods count the same trees, at least one, up to the rounding of one exact
number; and no period's count gets less when the carbon or the executions grow. -/
theorem trees_of_summary {s : ProjectionSummary} (finite : m.carbon.isFinite = true) (low : 0 ≤ m.carbon)
    (made : summary m given = .ok s) :
    TreesOf s m.carbon (executionsPerDay given) ∧
      ∀ (m' : Metrics) (given' : Int) (s' : ProjectionSummary), m'.carbon.isFinite = true →
        m.carbon ≤ m'.carbon → given ≤ given' → summary m' given' = .ok s' →
        List.Forall₂ (fun p q => p.period = q.period ∧ p.trees ≤ q.trees) s.projections s'.projections := by
  obtain ⟨projected, h⟩ := summary_eq_ok_iff.mp made
  refine ⟨h.treesOf finite low, fun m' given' s' finite' more often made' => ?_⟩
  obtain ⟨projected', h'⟩ := summary_eq_ok_iff.mp made'
  rw [h.projections, h'.projections, List.forall₂_map_left_iff, List.forall₂_map_right_iff,
    List.forall₂_same]
  intro period _
  have isFor := h.each period
  have isFor' := h'.each period
  refine ⟨isFor.period_eq.trans isFor'.period_eq.symm, ?_⟩
  have kilograms := amount_le_amount low more finite' (le_max_left 0 given)
    (max_le_max_left 0 often) isFor'.counted
  have planted := isFor.trees
  have planted' := isFor'.trees
  rw [isFor.co2] at planted
  rw [isFor'.co2] at planted'
  exact trees_le_trees kilograms planted planted'

def givingOff (carbon : Binary64) : Metrics where
  energy := 0.02
  carbon := carbon
  gridIntensity := 368
  lineCount := 10
  complexity := 1.2
  memPressure := 1.8
  recursive := false
  language := "js"

theorem trees_of_summary_thirteen :
    ∃ s, summary (givingOff 7.36) 100 = .ok s ∧ ∀ p ∈ s.projections, p.trees = 13 := by
  have finite : (7.36 : Binary64).isFinite = true := by decide +kernel
  have low : (0 : Binary64) ≤ 7.36 := by decide +kernel
  have fits : Fits (givingOff 7.36).carbon (executionsPerDay 100) := ⟨by decide +kernel, by decide +kernel⟩
  obtain ⟨s, made⟩ := (exists_summary_iff (m := givingOff 7.36) finite low).mpr fits
  refine ⟨s, made, fun p member => ?_⟩
  have hundredths : (7.36 : Binary64).IsDecimal 2 736 := by decide +kernel
  rw [(trees_of_summary (m := givingOff 7.36) finite low made).1.decimal 736 hundredths (by decide) (by decide)
    p member]
  norm_num [executionsPerDay]

/-- The week counts one tree more than the other periods, although the exact number is whole. -/
theorem trees_not_the_same :
    yearlyTrees 43.54 100 = 73 ∧
      (summary (givingOff 43.54) 100).toOption.map (fun s => s.projections.map Projection.trees) =
        some [73, 74, 73, 73, 73] := by
  have double : (43.54 : Binary64).units = 2 * treeKgPerYear.units := by decide +kernel
  have value : (43.54 : Binary64).toRat = 2 * treeKgPerYear.toRat := by
    rw [toRat, double, toRat]
    push_cast
    ring
  have tree : treeKgPerYear.toRat ≠ 0 := by linarith [treeKgPerYear_between.1]
  refine ⟨?_, by decide +kernel⟩
  rw [yearlyTrees, value]
  generalize treeKgPerYear.toRat = t at tree ⊢
  field_simp
  norm_num

end Projection
end Footprint
