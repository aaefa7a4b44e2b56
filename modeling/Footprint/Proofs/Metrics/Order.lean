import Footprint.Proofs.Binary64.Approximation
import Footprint.Proofs.Metrics.Totality

/-! Files in another order. What is compared, counted or joined does not depend on the order in which the
files are taken. The sums of doubles do, but only by the few parts that rounding adds: after the rounding to
places they are the same in every order, unless the exact value is that close to a half of a last place.
Amounts of few places never are. Their mean is when it is exactly a half, and then the order decides. -/
namespace Footprint

open Binary64

namespace Metrics

structure Ranged (m : Metrics) : Prop where
  energy : m.energy.isFinite = true ∧ 0 ≤ m.energy
  carbon : m.carbon.isFinite = true ∧ 0 ≤ m.carbon
  complexity : 1.0 ≤ m.complexity ∧ m.complexity ≤ 5.0
  memPressure : 1.0 ≤ m.memPressure ∧ m.memPressure ≤ 2.5

instance (m : Metrics) : Decidable m.Ranged :=
  decidable_of_iff ((m.energy.isFinite = true ∧ 0 ≤ m.energy) ∧ (m.carbon.isFinite = true ∧ 0 ≤ m.carbon) ∧
      (1.0 ≤ m.complexity ∧ m.complexity ≤ 5.0) ∧ 1.0 ≤ m.memPressure ∧ m.memPressure ≤ 2.5)
    ⟨fun ⟨a, b, c, d⟩ => ⟨a, b, c, d⟩, fun ⟨a, b, c, d⟩ => ⟨a, b, c, d⟩⟩

structure SameBesidesSums (m other : Metrics) : Prop where
  gridIntensity : other.gridIntensity = m.gridIntensity
  lineCount : other.lineCount = m.lineCount
  complexity : other.complexity = m.complexity
  recursive : other.recursive = m.recursive
  language : other.language = m.language

theorem SameBesidesSums.eq {m other : Metrics} (h : m.SameBesidesSums other)
    (energy : other.energy = m.energy) (carbon : other.carbon = m.carbon)
    (memPressure : other.memPressure = m.memPressure) : other = m := by
  obtain ⟨grid, lines, complexity, recursive, language⟩ := h
  cases m
  cases other
  subst energy carbon memPressure grid lines complexity recursive language
  rfl

/-! ### What is compared, counted or joined -/

theorem sharedLanguage_of_forall {first : Metrics} {rest : List Metrics} {language : String}
    (shared : ∀ x ∈ first :: rest, x.language = language) : sharedLanguage first rest = language := by
  have head := shared first List.mem_cons_self
  rw [sharedLanguage, if_pos, head]
  rw [List.all_eq_true]
  intro x hx
  rw [shared x (List.mem_cons_of_mem _ hx), head, beq_self_eq_true]

theorem sharedLanguage_of_not_forall {first : Metrics} {rest : List Metrics}
    (several : ∀ language, ¬ ∀ x ∈ first :: rest, x.language = language) :
    sharedLanguage first rest = mixedLanguage := by
  rw [sharedLanguage, if_neg]
  intro shared
  refine several first.language fun x hx => ?_
  rcases List.mem_cons.mp hx with rfl | inRest
  · rfl
  · exact beq_iff_eq.mp (List.all_eq_true.mp shared x inRest)

theorem greatest_of_perm {first other : Binary64} {rest others : List Binary64}
    (perm : (first :: rest).Perm (other :: others)) (finite : ∀ x ∈ first :: rest, x.isFinite = true)
    (nonzero : ∀ x ∈ first :: rest, x.units ≠ 0) : greatest other others = greatest first rest := by
  have numbers : ∀ x ∈ first :: rest, x ≠ nan := fun x hx => ne_nan_of_isFinite (finite x hx)
  have left := greatest_mem first rest
  have right := perm.mem_iff.mpr (greatest_mem other others)
  exact eq_of_le_of_le (finite _ right) (finite _ left) (nonzero _ left) (le_greatest numbers _ right)
    (le_greatest (fun x hx => numbers x (perm.mem_iff.mpr hx)) _ (perm.mem_iff.mp left))

theorem Ranged.complexity_number {m : Metrics} (h : m.Ranged) :
    m.complexity.isFinite = true ∧ m.complexity.units ≠ 0 := by
  have five : (5.0 : Binary64).isFinite = true := by decide +kernel
  have one : 0 < (1.0 : Binary64).rank := by decide +kernel
  have finite := isFinite_of_le_of_le units_bounds.1.1 five h.complexity.1 h.complexity.2
  have order := rank_le_of_le h.complexity.1
  rw [rank_of_isFinite finite] at order
  exact ⟨finite, (one.trans_le order).ne'⟩

section

variable {all others : List Metrics}

theorem sameBesidesSums_of_perm (perm : all.Perm others) (ranged : ∀ x ∈ all, x.Ranged)
    (grid : ∀ x ∈ all, ∀ y ∈ all, x.gridIntensity = y.gridIntensity) {m m' : Metrics}
    (h : aggregate all = .ok m) (h' : aggregate others = .ok m') : m.SameBesidesSums m' := by
  cases all with
  | nil => cases h
  | cons first rest =>
    cases others with
    | nil => cases h'
    | cons other others =>
      have figures := aggregate_eq_ok_iff.mp h
      have figures' := aggregate_eq_ok_iff.mp h'
      have number : ∀ x ∈ (first :: rest).map Metrics.complexity, x.isFinite = true ∧ x.units ≠ 0 := by
        intro x hx
        obtain ⟨m, hm, rfl⟩ := List.mem_map.mp hx
        exact (ranged m hm).complexity_number
      constructor
      case gridIntensity =>
        rw [figures.gridIntensity, figures'.gridIntensity]
        exact grid _ (perm.mem_iff.mpr List.mem_cons_self) _ List.mem_cons_self
      case lineCount =>
        rw [figures.lineCount, figures'.lineCount]
        exact (perm.map Metrics.lineCount).symm.sum_eq
      case complexity =>
        rw [figures.complexity, figures'.complexity]
        exact greatest_of_perm (perm.map Metrics.complexity) (fun x hx => (number x hx).1)
          fun x hx => (number x hx).2
      case recursive =>
        rw [figures.recursive, figures'.recursive]
        exact perm.symm.any_eq
      case language =>
        rw [figures.language, figures'.language]
        by_cases shared : ∃ language, ∀ x ∈ first :: rest, x.language = language
        · obtain ⟨language, shared⟩ := shared
          rw [sharedLanguage_of_forall shared,
            sharedLanguage_of_forall fun x hx => shared x (perm.mem_iff.mpr hx)]
        · rw [sharedLanguage_of_not_forall fun language all => shared ⟨language, all⟩,
            sharedLanguage_of_not_forall fun language all =>
              shared ⟨language, fun x hx => all x (perm.mem_iff.mp hx)⟩]

/-! ### What is summed -/

/-- Amounts that are nothing or not too small to be counted, and a total of them that is not too great and
no half of a last place is near. -/
structure Settled (amounts : List ℚ) (places parts : ℕ) : Prop where
  ordinary : ∀ v ∈ amounts, v = 0 ∨ 1 ≤ 2 ^ 100 * v
  most : amounts.sum ≤ 2 ^ 60
  clear : ClearOfHalves amounts.sum places parts

theorem Settled.amount {amounts : List ℚ} {places parts : ℕ} (h : Settled amounts places parts) :
    ∀ v ∈ amounts, Ordinary v := by
  have nonneg : ∀ v ∈ amounts, 0 ≤ v := by
    intro v hv
    obtain rfl | low := h.ordinary v hv
    · exact le_rfl
    · linarith
  intro v hv
  refine (h.ordinary v hv).imp_right fun low => ⟨low, ?_⟩
  exact ((List.single_le_sum nonneg v hv).trans h.most).trans (by norm_num)

theorem roundHalfUp_sum_of_settled {f : Metrics → Binary64} {places : ℕ}
    (scale : decimalScale places ≤ 2 ^ 10) (few : all.length < 2 ^ 20)
    (finite : ∀ x ∈ all, (f x).isFinite = true)
    (settled : Settled (all.map fun x => (f x).toRat) places (all.length + 3)) :
    (sum (all.map f)).roundHalfUp places = .ok (ofRatio
      ⌊(all.map fun x => (f x).toRat).sum * decimalScale places + 1 / 2⌋₊ (decimalScale places)) := by
  have amount : ∀ x ∈ all, Ordinary (f x).toRat := fun x hx => settled.amount _ (List.mem_map_of_mem hx)
  have most := settled.most
  obtain ⟨total, ordinary⟩ := approximates_sum (f := f) (v := fun x => (f x).toRat)
    (fun x hx => (Approximates.of_isFinite (finite x hx) (amount x hx).nonneg).mono (Nat.zero_le 1))
    amount (most.trans (by norm_num)) (by omega)
  have places_le : (decimalScale places : ℚ) ≤ 2 ^ 10 := by exact_mod_cast scale
  have one_le : (1 : ℚ) ≤ decimalScale places := Nat.one_le_cast.mpr (decimalScale_pos places)
  have nonneg := ordinary.nonneg
  refine total.roundHalfUp_of_clear scale (by omega) ?_ (by nlinarith) settled.clear
  obtain zero | ⟨low, -⟩ := ordinary
  · exact .inl (by rw [zero, zero_mul])
  · exact .inr ⟨by nlinarith, by nlinarith⟩

theorem Ranged.pressure {m : Metrics} (h : m.Ranged) :
    m.memPressure.isFinite = true ∧ 1 ≤ m.memPressure.toRat ∧ m.memPressure.toRat ≤ 5 / 2 := by
  have values : (1.0 : Binary64).toRat = 1 ∧ (2.5 : Binary64).toRat = 5 / 2 := by decide +kernel
  obtain ⟨⟨one, -⟩, cap, -⟩ := units_bounds
  have finite := isFinite_of_le_of_le one cap h.memPressure.1 h.memPressure.2
  rw [← values.1, ← values.2]
  exact ⟨finite, toRat_le_toRat one finite h.memPressure.1, toRat_le_toRat finite cap h.memPressure.2⟩

theorem roundHalfUp_mean_of_clear (nonempty : 0 < all.length) (few : all.length < 2 ^ 20)
    (ranged : ∀ x ∈ all, x.Ranged)
    (clear : ClearOfHalves ((all.map fun x => x.memPressure.toRat).sum / all.length) 2 (all.length + 4)) :
    (sum (all.map Metrics.memPressure) / (all.length : Binary64)).roundHalfUp (2 : ℕ) = .ok (ofRatio
      ⌊(all.map fun x => x.memPressure.toRat).sum / all.length * decimalScale 2 + 1 / 2⌋₊
      (decimalScale 2)) := by
  have each : ∀ v ∈ all.map fun x => x.memPressure.toRat, 1 ≤ v ∧ v ≤ 5 / 2 := by
    intro v hv
    obtain ⟨x, hx, rfl⟩ := List.mem_map.mp hv
    exact (ranged x hx).pressure.2
  have least := List.card_nsmul_le_sum _ 1 fun v hv => (each v hv).1
  have most := List.sum_le_card_nsmul _ (5 / 2) fun v hv => (each v hv).2
  rw [List.length_map, nsmul_eq_mul] at least most
  have count : (all.length : ℚ) ≤ 2 ^ 20 := by exact_mod_cast few.le
  have some : (0 : ℚ) < all.length := Nat.cast_pos.mpr nonempty
  have amount : ∀ x ∈ all, Ordinary x.memPressure.toRat := by
    intro x hx
    obtain ⟨low, high⟩ := each _ (List.mem_map_of_mem hx)
    exact .inr ⟨by linarith, by linarith⟩
  obtain ⟨total, -⟩ := approximates_sum (f := Metrics.memPressure) (v := fun x => x.memPressure.toRat)
    (fun x hx => (Approximates.of_isFinite (ranged x hx).pressure.1 (amount x hx).nonneg).mono
      (Nat.zero_le 1)) amount (by linarith) (by omega)
  have low : 1 ≤ (all.map fun x => x.memPressure.toRat).sum / all.length := by
    rw [le_div_iff₀ some]
    linarith
  have high : (all.map fun x => x.memPressure.toRat).sum / all.length ≤ 5 / 2 := by
    rw [div_le_iff₀ some]
    linarith
  have hundred : decimalScale 2 = 100 := rfl
  have mean := total.div (units_natCast (n := all.length) (by omega)).1 (toRat_natCast (by omega)) some
    (by omega) (.inr ⟨by linarith, by linarith⟩)
  refine mean.roundHalfUp_of_clear (by decide) (by omega) ?_ ?_ clear
  · rw [hundred]
    exact .inr ⟨by linarith, by linarith⟩
  · rw [hundred]
    linarith

/-! ### Whole records -/

theorem exists_aggregate_of_sums {energy carbon memPressure : Binary64} (nonempty : all ≠ [])
    (energyOk : (sum (all.map Metrics.energy)).roundHalfUp (3 : ℕ) = .ok energy)
    (carbonOk : (sum (all.map Metrics.carbon)).roundHalfUp (2 : ℕ) = .ok carbon)
    (pressureOk : (sum (all.map Metrics.memPressure) / (all.length : Binary64)).roundHalfUp (2 : ℕ) =
      .ok memPressure) :
    ∃ m, aggregate all = .ok m ∧ m.energy = energy ∧ m.carbon = carbon ∧ m.memPressure = memPressure := by
  cases all with
  | nil => exact absurd rfl nonempty
  | cons first rest =>
    exact ⟨⟨energy, carbon, _, _, _, memPressure, _, _⟩,
      aggregate_eq_ok_iff.mpr ⟨energyOk, carbonOk, rfl, rfl, rfl, pressureOk, rfl, rfl⟩, rfl, rfl, rfl⟩

theorem count_le_of_ranged {m : Metrics} {count : ℕ} (h : m.Ranged)
    (decimal : m.memPressure.IsDecimal 2 count) : count ≤ 250 := by
  have hundred : decimalScale 2 = 100 := rfl
  refine decimal.count_le ?_ (by norm_num)
  rw [hundred]
  push_cast
  linarith [h.pressure.2.2]

theorem eq_of_nearest {n d a b : ℕ} (lowA : 2 * n ≤ 2 * (a * d) + d)
    (highA : 2 * (a * d) ≤ 2 * n + d) (lowB : 2 * n ≤ 2 * (b * d) + d)
    (highB : 2 * (b * d) ≤ 2 * n + d) (noHalf : ∀ j, 2 * n ≠ (2 * j + 1) * d) : a = b := by
  have step {i j : ℕ} (low : 2 * n ≤ 2 * (i * d) + d) (high : 2 * (j * d) ≤ 2 * n + d) : j ≤ i := by
    by_contra above
    have next : (i + 1) * d ≤ j * d := Nat.mul_le_mul_right d (by omega)
    have half := noHalf i
    have odd : (2 * i + 1) * d = 2 * (i * d) + d := by ring
    rw [add_one_mul] at next
    omega
  exact le_antisymm (step lowB highA) (step lowA highB)

structure Counted (all : List Metrics) (energy carbon pressure : Metrics → ℕ) : Prop where
  decimals : ∀ x ∈ all, x.energy.IsDecimal 3 (energy x) ∧ x.carbon.IsDecimal 2 (carbon x) ∧
    x.memPressure.IsDecimal 2 (pressure x)
  energySmall : (all.length + 3) * (2 * (all.map energy).sum + 1) ≤ 2 ^ 51
  carbonSmall : (all.length + 3) * (2 * (all.map carbon).sum + 1) ≤ 2 ^ 51

theorem Settled.of_perm {amounts others : List ℚ} {places parts : ℕ} (h : Settled amounts places parts)
    (perm : amounts.Perm others) : Settled others places parts where
  ordinary v hv := h.ordinary v (perm.mem_iff.mpr hv)
  most := perm.sum_eq ▸ h.most
  clear := perm.sum_eq ▸ h.clear

theorem Counted.of_perm {energy carbon pressure : Metrics → ℕ} (h : Counted all energy carbon pressure)
    (perm : all.Perm others) : Counted others energy carbon pressure where
  decimals x hx := h.decimals x (perm.mem_iff.mpr hx)
  energySmall := by
    rw [← perm.length_eq, ← (perm.map _).sum_eq]
    exact h.energySmall
  carbonSmall := by
    rw [← perm.length_eq, ← (perm.map _).sum_eq]
    exact h.carbonSmall

theorem exists_aggregate_of_settled (nonempty : all ≠ []) (few : all.length < 2 ^ 20)
    (ranged : ∀ x ∈ all, x.Ranged)
    (energy : Settled (all.map fun x => x.energy.toRat) 3 (all.length + 3))
    (carbon : Settled (all.map fun x => x.carbon.toRat) 2 (all.length + 3))
    (clear : ClearOfHalves ((all.map fun x => x.memPressure.toRat).sum / all.length) 2 (all.length + 4)) :
    ∃ m, aggregate all = .ok m ∧
      m.energy = ofRatio ⌊(all.map fun x => x.energy.toRat).sum * decimalScale 3 + 1 / 2⌋₊
        (decimalScale 3) ∧
      m.carbon = ofRatio ⌊(all.map fun x => x.carbon.toRat).sum * decimalScale 2 + 1 / 2⌋₊
        (decimalScale 2) ∧
      m.memPressure = ofRatio ⌊(all.map fun x => x.memPressure.toRat).sum / all.length * decimalScale 2 +
        1 / 2⌋₊ (decimalScale 2) :=
  exists_aggregate_of_sums nonempty
    (roundHalfUp_sum_of_settled (by decide) few (fun x hx => (ranged x hx).energy.1) energy)
    (roundHalfUp_sum_of_settled (by decide) few (fun x hx => (ranged x hx).carbon.1) carbon)
    (roundHalfUp_mean_of_clear (List.length_pos_iff.mpr nonempty) few ranged clear)

theorem exists_aggregate_of_counted {energy carbon pressure : Metrics → ℕ} (nonempty : all ≠ [])
    (few : all.length < 2 ^ 20) (ranged : ∀ x ∈ all, x.Ranged)
    (counted : Counted all energy carbon pressure) :
    ∃ m, aggregate all = .ok m ∧ m.energy = ofRatio (all.map energy).sum (decimalScale 3) ∧
      m.carbon = ofRatio (all.map carbon).sum (decimalScale 2) ∧
      ∃ mean : ℕ, m.memPressure = ofRatio mean (decimalScale 2) ∧
        2 * (all.map pressure).sum ≤ 2 * (mean * all.length) + all.length ∧
        2 * (mean * all.length) ≤ 2 * (all.map pressure).sum + all.length := by
  have total := List.sum_le_card_nsmul (all.map pressure) 250 (by
    intro n hn
    obtain ⟨x, hx, rfl⟩ := List.mem_map.mp hn
    exact count_le_of_ranged (ranged x hx) (counted.decimals x hx).2.2)
  rw [List.length_map, nsmul_eq_mul, Nat.cast_id] at total
  have small : (all.length + 4) * (2 * (all.map pressure).sum + all.length) ≤ 2 ^ 51 := by
    have product := Nat.mul_le_mul (show all.length + 4 ≤ 2 ^ 21 by omega)
      (show 2 * (all.map pressure).sum + all.length ≤ 2 ^ 30 by omega)
    exact product.trans (by norm_num)
  obtain ⟨mean, meanOk, nearest⟩ := roundHalfUp_mean_of_isDecimal
    (fun x hx => (counted.decimals x hx).2.2) (by decide) (List.length_pos_iff.mpr nonempty) small
  obtain ⟨m, ok, energyIs, carbonIs, pressureIs⟩ := exists_aggregate_of_sums nonempty
    (roundHalfUp_sum_of_isDecimal (fun x hx => (counted.decimals x hx).1) (by decide) counted.energySmall)
    (roundHalfUp_sum_of_isDecimal (fun x hx => (counted.decimals x hx).2.1) (by decide)
      counted.carbonSmall) meanOk
  exact ⟨m, ok, energyIs, carbonIs, mean, pressureIs, nearest⟩

end

/-- Files in another order, of one grid and with figures in range. The grid, the lines, the complexity, the
recursion and the language are the same whatever the amounts are. So is the whole record where the exact
sums and the exact mean are not within the rounding of a half of a last place. Amounts of few places that are
not too great together are summed exactly; with these the whole record is the same unless the mean of
the memory pressures is exactly a half. -/
theorem aggregate_of_perm {all others : List Metrics} (nonempty : all ≠ []) (perm : all.Perm others)
    (ranged : ∀ x ∈ all, x.Ranged) (grid : ∀ x ∈ all, ∀ y ∈ all, x.gridIntensity = y.gridIntensity) :
    (∀ m m', aggregate all = .ok m → aggregate others = .ok m' → m.SameBesidesSums m') ∧
    (all.length < 2 ^ 20 → Settled (all.map fun x => x.energy.toRat) 3 (all.length + 3) →
      Settled (all.map fun x => x.carbon.toRat) 2 (all.length + 3) →
      ClearOfHalves ((all.map fun x => x.memPressure.toRat).sum / all.length) 2 (all.length + 4) →
      ∃ m, aggregate all = .ok m ∧ aggregate others = .ok m) ∧
    ∀ energy carbon pressure, all.length < 2 ^ 20 → Counted all energy carbon pressure →
      ∃ m m', aggregate all = .ok m ∧ aggregate others = .ok m' ∧
        m'.energy = m.energy ∧ m'.carbon = m.carbon ∧
        ((∀ j, 2 * (all.map pressure).sum ≠ (2 * j + 1) * all.length) → m' = m) := by
  have same := fun m m' (h : aggregate all = .ok m) (h' : aggregate others = .ok m') =>
    sameBesidesSums_of_perm perm ranged grid h h'
  have rangedOthers : ∀ x ∈ others, x.Ranged := fun x hx => ranged x (perm.mem_iff.mpr hx)
  have length := perm.length_eq
  have nonemptyOthers : others ≠ [] := by
    rintro rfl
    exact nonempty perm.eq_nil
  refine ⟨same, fun few energy carbon clear => ?_, fun energy carbon pressure few counted => ?_⟩
  · have sums (f : Metrics → ℚ) := (perm.map f).sum_eq
    obtain ⟨m, ok, energyIs, carbonIs, pressureIs⟩ :=
      exists_aggregate_of_settled nonempty few ranged energy carbon clear
    rw [length] at energy carbon
    rw [sums, length] at clear pressureIs
    rw [sums] at energyIs carbonIs
    obtain ⟨m', ok', energyIs', carbonIs', pressureIs'⟩ :=
      exists_aggregate_of_settled nonemptyOthers (length ▸ few) rangedOthers
        (energy.of_perm (perm.map _)) (carbon.of_perm (perm.map _)) clear
    have equal := (same m m' ok ok').eq (energyIs'.trans energyIs.symm) (carbonIs'.trans carbonIs.symm)
      (pressureIs'.trans pressureIs.symm)
    exact ⟨m, ok, equal ▸ ok'⟩
  · have totals (f : Metrics → ℕ) := (perm.map f).sum_eq
    obtain ⟨m, ok, energyIs, carbonIs, mean, pressureIs, low, high⟩ :=
      exists_aggregate_of_counted nonempty few ranged counted
    obtain ⟨m', ok', energyIs', carbonIs', mean', pressureIs', low', high'⟩ :=
      exists_aggregate_of_counted nonemptyOthers (length ▸ few) rangedOthers (counted.of_perm perm)
    rw [← totals] at energyIs' carbonIs' low' high'
    rw [← length] at low' high'
    have energyEq := energyIs'.trans energyIs.symm
    have carbonEq := carbonIs'.trans carbonIs.symm
    refine ⟨m, m', ok, ok', energyEq, carbonEq, fun noHalf => ?_⟩
    obtain rfl := eq_of_nearest low high low' high' noHalf
    exact (same m m' ok ok').eq energyEq carbonEq (pressureIs'.trans pressureIs.symm)

def threeFiles : List Metrics :=
  [⟨0.011, 4.05, 368, 10, 1.2, 1.0, false, "js"⟩, ⟨0.02, 7.36, 368, 30, 2.0, 1.8, true, "ts"⟩,
    ⟨0.005, 1.84, 368, 5, 1.0, 2.5, false, "js"⟩]

theorem aggregate_of_threeFiles_reversed :
    (∃ m, aggregate threeFiles = .ok m ∧ aggregate threeFiles.reverse = .ok m) ∧
    ∃ m m', aggregate threeFiles = .ok m ∧ aggregate threeFiles.reverse = .ok m' ∧
      m.SameBesidesSums m' ∧ m'.energy = m.energy ∧ m'.carbon = m.carbon ∧ m' = m := by
  obtain ⟨same, settled, counted⟩ := aggregate_of_perm (show threeFiles ≠ [] by decide)
    (List.reverse_perm threeFiles).symm (by decide +kernel) (by decide +kernel)
  constructor
  · refine settled (by decide) ⟨by decide +kernel, by decide +kernel, ?_⟩
      ⟨by decide +kernel, by decide +kernel, ?_⟩ ?_
    · exact clearOfHalves_of_between (n := 36) (by decide +kernel)
    · exact clearOfHalves_of_between (n := 1325) (by decide +kernel)
    · exact clearOfHalves_of_between (n := 177) (by decide +kernel)
  · have counts : Counted threeFiles
        (fun x => if x.lineCount = 10 then 11 else if x.lineCount = 30 then 20 else 5)
        (fun x => if x.lineCount = 10 then 405 else if x.lineCount = 30 then 736 else 184)
        (fun x => if x.lineCount = 10 then 100 else if x.lineCount = 30 then 180 else 250) :=
      ⟨by decide +kernel, by decide +kernel, by decide +kernel⟩
    obtain ⟨m, m', ok, ok', energy, carbon, equal⟩ := counted _ _ _ (by decide) counts
    refine ⟨m, m', ok, ok', same m m' ok ok', energy, carbon, equal fun j => ?_⟩
    change 2 * 530 ≠ (2 * j + 1) * 3
    omega

def pressed (memPressure : Binary64) : Metrics := ⟨0.02, 7.36, 368, 10, 1.2, memPressure, false, "js"⟩

/-- The mean of these pressures is a half of a hundredth. In the one order the sum is rounded below it. -/
theorem aggregate_depends_on_order :
    let all := [pressed 1.8, pressed 2.5, pressed 1.4, pressed 1.0]
    let others := [pressed 1.0, pressed 2.5, pressed 1.4, pressed 1.8]
    all.Perm others ∧ (∀ x ∈ all, x.Ranged) ∧ (∀ x ∈ all, ∀ y ∈ all, x.gridIntensity = y.gridIntensity) ∧
      (aggregate all).toOption.map Metrics.memPressure = some 1.67 ∧
      (aggregate others).toOption.map Metrics.memPressure = some 1.68 := by
  decide +kernel

end Metrics
end Footprint
