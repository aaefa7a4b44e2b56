import Footprint.Proofs.Binary64.Deviation
import Footprint.Proofs.Binary64.Within
import Footprint.Proofs.Environment
import Footprint.Proofs.Meter.Totality
import Footprint.Proofs.Projection.Range

/-! The hour that a region recommends. It is a field of the tables, while the intensity at an hour only
depends on whether it is night. So no hour has a lower intensity than the recommended one exactly when that
is an hour of the night, or when the region's intensity is so low that rounding leaves nothing to tell. -/
namespace Footprint

open Binary64

namespace EnvironmentTables

variable {tables : EnvironmentTables} {c : Conditions} {r : Region} {clock hour hour' : Int}

def percentAt (hour : Int) : ℕ := if isNightHour hour then 75 else 115

theorem factors_eq : nightFactor = ofRatio 75 100 ∧ dayFactor = ofRatio 115 100 := by decide +kernel

theorem positive_hourFactor (hour : Int) : (hourFactor hour).Positive := by
  have both : nightFactor.Positive ∧ dayFactor.Positive := by decide +kernel
  obtain same | same := hourFactor_cases hour
  · exact same ▸ both.1
  · exact same ▸ both.2

theorem hourFactor_deviates (hour : Int) :
    (hourFactor hour).Deviates (percentAt hour / 100) (percentAt hour / 100) 1 := by
  have ratio : hourFactor hour = ofRatio (percentAt hour) 100 := by
    unfold hourFactor percentAt
    split
    · exact factors_eq.1
    · exact factors_eq.2
  have few : percentAt hour ≤ 2 ^ 100 := by
    unfold percentAt
    split <;> norm_num
  have near := approximates_ofRatio (d := 100) (by norm_num) (by norm_num) few
  rw [← ratio] at near
  exact .of_approximates near (toRat_nonneg_iff.mpr (positive_hourFactor hour).units_pos.le)

theorem abs_intensityAt_sub_le {n : Int} (some : 0 < r.intensity) (h : intensityAt r hour = .ok n) :
    |(n : ℚ) - percentAt hour * r.intensity / 100| ≤
      1 / 2 + 8 * (percentAt hour * r.intensity / 100 + 1) / 2 ^ 52 := by
  obtain ⟨x, converted, rounded⟩ := exists_of_bind_eq_ok h
  obtain ⟨rfl, finite⟩ := ofInt?_eq_ok_iff.mp converted
  have one : (1 : ℚ) ≤ r.intensity := by exact_mod_cast some
  have share : (75 : ℚ) ≤ percentAt hour := by
    unfold percentAt
    split <;> norm_num
  have product := (deviates_ofInt some.le finite).mul (hourFactor_deviates hour)
    (isFinite_of_roundToInteger rounded) (by norm_num) le_rfl (by rw [Sizeable]; nlinarith)
  have near := product.abs_roundToInteger_sub_le (by norm_num) rounded
  have value : (r.intensity : ℚ) * (percentAt hour / 100) = percentAt hour * r.intensity / 100 := by ring
  rw [value] at near
  push_cast at near
  norm_num at near ⊢
  exact near

/-! ### Night and day -/

theorem intensityAt_congr (same : isNightHour hour = isNightHour hour') :
    intensityAt r hour = intensityAt r hour' := by
  have factors : hourFactor hour = hourFactor hour' := by rw [hourFactor, same, ← hourFactor]
  rw [intensityAt, factors, ← intensityAt]

theorem intensityAt_lt_intensityAt {night day : Int} (some : 3 ≤ r.intensity)
    (dark : isNightHour hour = true) (light : isNightHour hour' = false)
    (h : intensityAt r hour = .ok night) (h' : intensityAt r hour' = .ok day) : night < day := by
  have three : (3 : ℚ) ≤ r.intensity := by exact_mod_cast some
  have less : percentAt hour = 75 := if_pos dark
  have more : percentAt hour' = 115 := if_neg (by rw [light]; decide)
  have left := (abs_le.mp (abs_intensityAt_sub_le (by omega) h)).2
  have right := (abs_le.mp (abs_intensityAt_sub_le (by omega) h')).1
  rw [less] at left
  rw [more] at right
  push_cast at left right
  have order : (night : ℚ) < day := by linarith
  exact_mod_cast order

theorem intensityAt_of_le_two (low : 0 ≤ r.intensity) (few : r.intensity ≤ 2) (hour : Int) :
    intensityAt r hour = .ok r.intensity := by
  have all : ∀ n ∈ [0, 1, 2], ∀ factor ∈ [nightFactor, dayFactor],
      (ofInt? n >>= fun x => (x * factor).roundToInteger).toOption = some n := by decide +kernel
  have listed : r.intensity ∈ [0, 1, 2] := by
    simp
    omega
  have factor : hourFactor hour ∈ [nightFactor, dayFactor] := by
    obtain same | same := hourFactor_cases hour <;> simp [same]
  exact eq_ok_of_toOption (all r.intensity listed _ factor)

theorem exists_intensityAt_of_day {day : Int} (low : 0 ≤ r.intensity) (light : isNightHour hour' = false)
    (h : intensityAt r hour' = .ok day) (hour : Int) : ∃ n, intensityAt r hour = .ok n := by
  cases dark : isNightHour hour with
  | false => exact ⟨day, (intensityAt_congr (dark.trans light.symm)).trans h⟩
  | true =>
    obtain ⟨x, converted, rounded⟩ := exists_of_bind_eq_ok h
    obtain ⟨same, finite⟩ := ofInt?_eq_ok_iff.mp converted
    have nonneg : 0 ≤ x := same ▸ ofRatio_le_ofRatio low Nat.one_pos
    have order : (0 : Binary64) ≤ nightFactor ∧ nightFactor ≤ dayFactor ∧
        ((0 : Binary64).roundHalfUp 0).toOption = some 0 := by decide +kernel
    obtain ⟨least, less, zero⟩ := order
    have night : nightFactor = hourFactor hour := (if_pos dark).symm
    have day : dayFactor = hourFactor hour' := (if_neg (by rw [light]; decide)).symm
    rw [night] at least less
    rw [day] at less
    have product : x * hourFactor hour ≤ x * hourFactor hour' :=
      mul_le_mul_of_isFinite nonneg (le_refl' (ne_nan_of_isFinite finite)) least less finite
        (positive_hourFactor hour').isFinite
    have above : 0 ≤ x * hourFactor hour :=
      mul_nonneg nonneg (positive_hourFactor hour).isFinite (positive_hourFactor hour).units_pos
    obtain ⟨top, halfUp, -⟩ := exists_of_bind_eq_ok rounded
    obtain ⟨a, found, -⟩ := exists_roundHalfUp above product (eq_ok_of_toOption zero) halfUp
    obtain ⟨n, truncated⟩ := exists_truncate? (isFinite_of_roundHalfUp found)
    exact ⟨n, bind_eq_ok_of converted (bind_eq_ok_of found truncated)⟩

theorem exists_intensityAt_of_le (low : 0 ≤ r.intensity) (high : r.intensity ≤ (2 ^ 1021 : Nat)) (hour : Int) :
    ∃ n, intensityAt r hour = .ok n := by
  have baseline : (ofInt r.intensity).UpTo 1021 := UpTo.ofRatio Nat.one_pos (by decide) low high
  have factor : (hourFactor hour).UpTo 1 := by
    have both : nightFactor.UpTo 1 ∧ dayFactor.UpTo 1 := by decide +kernel
    obtain same | same := hourFactor_cases hour
    · exact same ▸ both.1
    · exact same ▸ both.2
  obtain ⟨n, rounded⟩ := (baseline.mul factor (by decide)).exists_roundToInteger (by decide)
  exact ⟨n, bind_eq_ok_of (ofInt?_eq_ok_iff.mpr ⟨rfl, baseline.isFinite (by decide)⟩) rounded⟩

/-! ### The recommended hour -/

/-- Tables that hold their default region, with intensities that are not negative and hours of the day. -/
structure Sound (tables : EnvironmentTables) : Prop where
  default : tables.defaultRegion ∈ tables.regions.map Prod.fst
  intensity : ∀ r ∈ tables.regions.map Prod.snd, 0 ≤ r.intensity
  bestHour : ∀ r ∈ tables.regions.map Prod.snd, 0 ≤ r.bestHour ∧ r.bestHour < 24

theorem sound_builtIn : builtIn.Sound := ⟨by decide, by decide, by decide⟩

theorem Sound.exists_resolveRegion (sound : tables.Sound) (key : Json) :
    ∃ r ∈ tables.regions.map Prod.snd, tables.resolveRegion key = .ok r := by
  have listed : tables.region? tables.defaultRegion ≠ none := fun absent =>
    lookup_eq_none_iff_not_mem.mp absent sound.default
  obtain ⟨other, present⟩ := Option.ne_none_iff_exists'.mp listed
  rw [resolveRegion, present]
  cases found : tables.region? (normalize key) with
  | some r => exact ⟨r, mem_map_snd_of_lookup found, rfl⟩
  | none => exact ⟨other, mem_map_snd_of_lookup present, rfl⟩

theorem gridIntensity_eq_ok_iff (resolved : tables.resolveRegion c.region = .ok r) {n : Int} :
    tables.gridIntensity clock { c with hour := .int hour } = .ok n ↔ intensityAt r (hour % 24) = .ok n := by
  constructor
  · intro h
    obtain ⟨region, regionOk, h⟩ := exists_of_bind_eq_ok h
    obtain ⟨_, hourOk, h⟩ := exists_of_bind_eq_ok h
    obtain rfl := Except.ok.inj (resolved.symm.trans regionOk)
    obtain rfl := Except.ok.inj hourOk
    exact ofArithmetic_eq_ok_iff.mp h
  · intro h
    exact bind_eq_ok_of resolved (bind_eq_ok_of rfl (liftM_eq_ok h))

def IsLeastAt (tables : EnvironmentTables) (clock : Int) (c : Conditions) (best : Int) : Prop :=
  ∀ a, tables.gridIntensity clock { c with hour := .int best } = .ok a →
    ∀ hour b, tables.gridIntensity clock { c with hour := .int hour } = .ok b → a ≤ b

theorem isLeastAt_iff (resolved : tables.resolveRegion c.region = .ok r) (low : 0 ≤ r.intensity)
    (range : 0 ≤ r.bestHour ∧ r.bestHour < 24) {a : Int}
    (returned : tables.gridIntensity clock { c with hour := .int r.bestHour } = .ok a) :
    tables.IsLeastAt clock c r.bestHour ↔ isNightHour r.bestHour = true ∨ r.intensity ≤ 2 := by
  have best : r.bestHour % 24 = r.bestHour := Int.emod_eq_of_lt range.1 range.2
  rw [gridIntensity_eq_ok_iff resolved, best] at returned
  simp only [IsLeastAt, gridIntensity_eq_ok_iff resolved, best]
  constructor
  · intro least
    by_contra neither
    obtain ⟨light, some⟩ := not_or.mp neither
    rw [Bool.not_eq_true] at light
    obtain ⟨night, dark⟩ := exists_intensityAt_of_day low light returned (0 % 24)
    exact absurd (least a returned 0 night dark)
      (not_le.mpr (intensityAt_lt_intensityAt (by omega) (by decide) light dark returned))
  · intro either a returned hour b found
    obtain few | some := le_or_gt r.intensity 2
    · rw [intensityAt_of_le_two low few] at returned found
      exact (Except.ok.inj (returned.symm.trans found)).le
    · have dark := either.resolve_right (by omega)
      cases light : isNightHour (hour % 24) with
      | true =>
        rw [intensityAt_congr (dark.trans light.symm)] at returned
        exact (Except.ok.inj (returned.symm.trans found)).le
      | false => exact (intensityAt_lt_intensityAt (by omega) dark light returned found).le

/-- For all sound tables and whatever is given as a region, no hour comes to less than the recommended one
exactly when that is an hour of the night, or when the intensity is two at most. -/
theorem recommended_hour (sound : tables.Sound) (clock : Int) (c : Conditions) :
    ∃ r ∈ tables.regions.map Prod.snd, tables.resolveRegion c.region = .ok r ∧
      (r.intensity ≤ (2 ^ 1021 : Nat) →
        ∀ hour, ∃ n, tables.gridIntensity clock { c with hour := .int hour } = .ok n) ∧
      ∀ a, tables.gridIntensity clock { c with hour := .int r.bestHour } = .ok a →
        (tables.IsLeastAt clock c r.bestHour ↔ isNightHour r.bestHour = true ∨ r.intensity ≤ 2) := by
  obtain ⟨r, member, resolved⟩ := sound.exists_resolveRegion c.region
  have low := sound.intensity r member
  refine ⟨r, member, resolved, fun high hour => ?_, fun a returned =>
    isLeastAt_iff resolved low (sound.bestHour r member) returned⟩
  obtain ⟨n, found⟩ := exists_intensityAt_of_le low high (hour % 24)
  exact ⟨n, (gridIntensity_eq_ok_iff resolved).mpr found⟩

theorem recommended_hour_europe :
    builtIn.gridIntensity 12 { region := .string "Europe", hour := .int 3 } = .ok 240 ∧
      builtIn.IsLeastAt 12 { region := .string "Europe" } 3 := by
  have returned : builtIn.gridIntensity 12 { region := .string "Europe", hour := .int 3 } = .ok 240 :=
    eq_ok_of_toOption (by decide +kernel)
  have europe : builtIn.resolveRegion (.string "Europe") = .ok ⟨"europe", "Europe", 1.1, 320, 3⟩ :=
    eq_ok_of_toOption (by decide +kernel)
  obtain ⟨r, -, resolved, -, least⟩ := recommended_hour sound_builtIn 12 { region := .string "Europe" }
  obtain rfl := Except.ok.inj (resolved.symm.trans europe)
  exact ⟨returned, (least 240 returned).mpr (.inl (by decide))⟩

/-- The region of Australia recommends an hour of the day, which comes to more than the hours of the night. -/
theorem recommended_hour_by_day :
    (builtIn.resolveRegion (.string "australia")).toOption.map Region.bestHour = some 13 ∧
      (builtIn.gridIntensity 12 { region := .string "australia", hour := .int 13 }).toOption = some 713 ∧
      (builtIn.gridIntensity 12 { region := .string "australia", hour := .int 0 }).toOption = some 465 := by
  decide +kernel

/-- Of the built-in regions all recommend an hour that none comes to less than, except for one. -/
theorem builtIn_recommended_hour (clock : Int) (c : Conditions) :
    ∃ r ∈ builtIn.regions.map Prod.snd, builtIn.resolveRegion c.region = .ok r ∧
      (builtIn.IsLeastAt clock c r.bestHour ↔ r.key ≠ "australia") := by
  have night : ∀ r ∈ builtIn.regions.map Prod.snd,
      (isNightHour r.bestHour = true ∨ r.intensity ≤ 2 ↔ r.key ≠ "australia") := by decide
  obtain ⟨r, member, resolved⟩ := exists_resolveRegion_builtIn c.region
  obtain ⟨n, found, -⟩ := exists_intensityAt member (r.bestHour % 24)
  have returned : builtIn.gridIntensity clock { c with hour := .int r.bestHour } = .ok n :=
    (gridIntensity_eq_ok_iff resolved).mpr found
  refine ⟨r, member, resolved, ?_⟩
  rw [← night r member]
  exact isLeastAt_iff resolved (sound_builtIn.intensity r member) (sound_builtIn.bestHour r member) returned

end EnvironmentTables
end Footprint
