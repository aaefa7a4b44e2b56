import Footprint.Proofs.Meter.Totality

/-! Figures that can be taken together. A sum of fewer terms than significands have values is rounded to
multiples of a power of two above each term, so that the sum stays below as many of them. -/
namespace Footprint

open Binary64

namespace Binary64

theorem exists_two_pow {k : Nat} (small : k ≤ 971) :
    ∃ x : Binary64, x.isFinite = true ∧ x.units = (2 ^ (1074 + k) : Nat) := by
  have canonical : Canonical (2 ^ 52) (1022 + k) := by
    refine (canonical_iff fun _ => le_rfl).mpr ⟨by norm_num, by omega⟩
  refine ⟨.finite false (2 ^ 52) (1022 + k) canonical, rfl, ?_⟩
  rw [two_pow_eq, ← Nat.shiftLeft_eq]
  rfl

theorem UpTo.sum {terms : List Binary64} {j k : Nat} (each : ∀ x ∈ terms, x.UpTo k)
    (few : terms.length ≤ 2 ^ j) (places : j ≤ 52) (small : k ≤ 971) : (sum terms).UpTo (k + j) := by
  obtain ⟨bound, finite, units⟩ := exists_two_pow small
  have none : Steps (0 : Binary64).units 0 (1074 + k) := ⟨by rw [zero_spec.2.1]; simp, by omega⟩
  have one : Steps bound.units 1 (1074 + k) := ⟨by rw [units, Nat.cast_one, one_mul, Nat.cast_pow, Nat.cast_ofNat], by omega⟩
  have count : terms.length < 2 ^ 53 :=
    (few.trans (Nat.pow_le_pow_right (by decide) places)).trans_lt (by norm_num)
  have bounded : ∀ x ∈ terms, 0 ≤ x ∧ x ≤ bound := by
    intro x hx
    have up := each x hx
    refine ⟨up.nonneg, (le_iff_rank (ne_nan_of_le up.nonneg).2 (ne_nan_of_isFinite finite)).mpr ?_⟩
    rw [rank_of_isFinite finite, units]
    exact up.rank_le
  obtain ⟨whole, -, high⟩ := sum_between none one zero_spec.1 finite (by decide) terms
    (by rwa [mul_one]) bounded
  refine ⟨sum_nonneg fun x hx => (each x hx).nonneg, ?_⟩
  rw [rank_of_isFinite whole]
  refine high.trans ?_
  rw [units, ← Nat.cast_mul, ← Nat.add_assoc, pow_add _ _ j, Nat.mul_comm]
  exact Int.ofNat_le.mpr (Nat.mul_le_mul_left _ few)

end Binary64

namespace Metrics

theorem exists_mean_pressure {pressures : List Binary64} (nonempty : pressures ≠ [])
    (few : pressures.length < 2 ^ 50) (each : ∀ p ∈ pressures, 1.0 ≤ p ∧ p ≤ 2.5) :
    ∃ mean, (sum pressures / (pressures.length : Binary64)).roundHalfUp (2 : Nat) = .ok mean := by
  obtain ⟨low, high⟩ := mean_between steps_one steps_pressureCap units_bounds.1.1
    units_bounds.2.1 (by omega) (by omega) nonempty (by omega) each
  obtain ⟨mean, rounded, -⟩ := exists_roundHalfUp low high roundHalfUp_one
    roundHalfUp_recursiveComplexity
  exact ⟨mean, rounded⟩

theorem exists_aggregate {all : List Metrics} {k : Nat} (nonempty : all ≠ [])
    (few : all.length < 2 ^ 50) (each : ∀ x ∈ all, x.UpTo k) (small : k ≤ 900)
    (pressed : ∀ x ∈ all, 1.0 ≤ x.memPressure ∧ x.memPressure ≤ 2.5) :
    ∃ m, aggregate all = .ok m ∧ m.UpTo (k + 61) := by
  have up {f : Metrics → Binary64} (bound : ∀ m : Metrics, m.UpTo k → (f m).UpTo k) :
      (sum (all.map f)).UpTo (k + 50) := by
    refine UpTo.sum (fun y hy => ?_) (by rw [List.length_map]; exact few.le) (by omega) (by omega)
    obtain ⟨x, hx, rfl⟩ := List.mem_map.mp hy
    exact bound x (each x hx)
  have thousand : decimalScale 3 ≤ 2 ^ 10 := by decide
  have hundred : decimalScale 2 ≤ 2 ^ 7 := by decide
  obtain ⟨energy, energyOk, energyUp⟩ := (up fun _ h => h.energy).roundHalfUp thousand (by omega)
  obtain ⟨carbon, carbonOk, carbonUp⟩ := (up fun _ h => h.carbon).roundHalfUp hundred (by omega)
  have bounded : ∀ y ∈ all.map Metrics.memPressure, 1.0 ≤ y ∧ y ≤ 2.5 := by
    intro y hy
    obtain ⟨x, hx, rfl⟩ := List.mem_map.mp hy
    exact pressed x hx
  obtain ⟨mean, pressureOk⟩ := exists_mean_pressure (by simpa using nonempty) (by simpa using few) bounded
  rw [List.length_map] at pressureOk
  have linesLow : 0 ≤ (all.map Metrics.lineCount).sum := by
    refine List.sum_nonneg fun lines counted => ?_
    obtain ⟨x, hx, rfl⟩ := List.mem_map.mp counted
    exact (each x hx).lineCount_nonneg
  have linesHigh : (all.map Metrics.lineCount).sum ≤ (2 ^ (k + 61) : Nat) := by
    have bound := List.sum_le_card_nsmul (all.map Metrics.lineCount) (2 ^ k : Nat) fun lines counted => by
      obtain ⟨x, hx, rfl⟩ := List.mem_map.mp counted
      exact (each x hx).lineCount_le
    refine bound.trans ?_
    have count : all.length ≤ 2 ^ 61 := few.le.trans (Nat.pow_le_pow_right (by decide) (by decide))
    have product : all.length * 2 ^ k ≤ 2 ^ (k + 61) := by
      rw [pow_add, Nat.mul_comm]
      exact Nat.mul_le_mul_left _ count
    rw [List.length_map, nsmul_eq_mul, ← Nat.cast_mul]
    exact Int.ofNat_le.mpr product
  cases all with
  | nil => exact absurd rfl nonempty
  | cons first rest =>
    have grid := each first List.mem_cons_self
    exact ⟨⟨energy, carbon, first.gridIntensity, _, _, mean, _, _⟩,
      aggregate_eq_ok_iff.mpr ⟨energyOk, carbonOk, rfl, rfl, rfl, pressureOk, rfl, rfl⟩,
      ⟨energyUp, carbonUp.mono (by omega), linesLow, linesHigh, grid.gridIntensity_nonneg,
        grid.gridIntensity_le⟩⟩

end Metrics
end Footprint
