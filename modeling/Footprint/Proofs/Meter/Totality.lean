import Footprint.Proofs.Binary64.Range
import Footprint.Proofs.Coherence
import Footprint.Proofs.Environment
import Mathlib.Data.String.Basic

/-! Files that the built-in meter has figures for. Every factor is bounded by a power of two, so that the
figures of a file with up to `2 ^ k` bytes stay below a power of two whose exponent is linear in `k`. -/
namespace Footprint

open Binary64

/-! ### Factors that are built in -/

/-- The tables hold their own defaults, factors within range, and an intensity for each region by night
and by day. -/
theorem builtIn_tables :
    let languages := LanguageTable.builtIn
    let environments := EnvironmentTables.builtIn
    (∀ entry ∈ languages.multipliers, entry.2.UpTo 1) ∧ languages.default.multiplier.UpTo 1 ∧
      (∀ r ∈ environments.regions.map Prod.snd, r.factor.UpTo 1) ∧
      (∀ h ∈ environments.hardware.map Prod.snd, h.factor.UpTo 2) ∧
      (∃ r ∈ environments.regions.map Prod.snd, environments.region? environments.defaultRegion = some r) ∧
      (∃ h ∈ environments.hardware.map Prod.snd,
        environments.hardware? environments.defaultHardware = some h) ∧
      ∀ r ∈ environments.regions.map Prod.snd, ∀ factor ∈ [nightFactor, dayFactor],
        ∃ n ∈ ((ofInt? r.intensity >>= fun x => (x * factor).roundToInteger).toOption),
          0 ≤ n ∧ n ≤ (2 ^ 10 : Nat) := by
  decide +kernel

/-- The constants of the meter: bounds of a profile, the rate and the units of sizes, and the scales of
rounding. -/
theorem builtIn_constants :
    (5.0 : Binary64).UpTo 3 ∧ (2.5 : Binary64).UpTo 2 ∧ (1 : Binary64).UpTo 0 ∧
      (0.0001 : Binary64).UpTo 0 ∧
      ((1024 : Binary64).isFinite = true ∧ (unitsPerOne : Int) ≤ (1024 : Binary64).units) ∧
      (bytesPerLine.isFinite = true ∧ (unitsPerOne : Int) ≤ bytesPerLine.units) ∧
      (decimalFactor 3).isFinite = true ∧ (decimalFactor 2).isFinite = true := by
  decide +kernel

theorem LanguageTable.multiplier_of_forall {table : LanguageTable} {P : Binary64 → Prop}
    (entries : ∀ entry ∈ table.multipliers, P entry.2) (default : P table.default.multiplier)
    (name : String) : P (table.classify name).multiplier := by
  unfold classify
  split
  · next multiplier found =>
    exact entries _ (EnvironmentTables.mem_of_lookup_eq_some found)
  · exact default

theorem LanguageTable.multiplier_classify_builtIn (name : String) :
    (builtIn.classify name).multiplier.UpTo 1 := by
  obtain ⟨entries, default, -⟩ := builtIn_tables
  exact multiplier_of_forall (P := fun x => x.UpTo 1) entries default name

namespace EnvironmentTables

theorem exists_resolveRegion_builtIn (key : Json) :
    ∃ r ∈ builtIn.regions.map Prod.snd, builtIn.resolveRegion key = .ok r := by
  obtain ⟨-, -, -, -, default, -⟩ := builtIn_tables
  unfold resolveRegion
  cases found : builtIn.region? (normalize key) with
  | some r => exact ⟨r, mem_map_snd_of_lookup found, rfl⟩
  | none =>
    obtain ⟨r, member, same⟩ := default
    rw [same]
    exact ⟨r, member, rfl⟩

theorem exists_resolveHardware_builtIn (key : Json) :
    ∃ h ∈ builtIn.hardware.map Prod.snd, builtIn.resolveHardware key = .ok h := by
  obtain ⟨-, -, -, -, -, default, -⟩ := builtIn_tables
  unfold resolveHardware
  cases found : builtIn.hardware? (normalize key) with
  | some h => exact ⟨h, mem_map_snd_of_lookup found, rfl⟩
  | none =>
    obtain ⟨h, member, same⟩ := default
    rw [same]
    exact ⟨h, member, rfl⟩

theorem hourFactor_cases (hour : Int) : hourFactor hour = nightFactor ∨ hourFactor hour = dayFactor := by
  unfold hourFactor
  split
  · exact .inl rfl
  · exact .inr rfl

theorem exists_intensityAt {r : Region} (member : r ∈ builtIn.regions.map Prod.snd) (hour : Int) :
    ∃ n, intensityAt r hour = .ok n ∧ 0 ≤ n ∧ n ≤ (2 ^ 10 : Nat) := by
  obtain ⟨-, -, -, -, -, -, checked⟩ := builtIn_tables
  have factor : hourFactor hour ∈ [nightFactor, dayFactor] := by
    obtain same | same := hourFactor_cases hour <;> simp [same]
  obtain ⟨n, found, bounds⟩ := checked r member _ factor
  exact ⟨n, eq_ok_of_toOption found, bounds⟩

theorem exists_gridIntensity_builtIn (clock : Int) {c : Conditions} {hour : Int}
    (given : hourOf clock c.hour = .ok hour) :
    ∃ n, builtIn.gridIntensity clock c = .ok n ∧ 0 ≤ n ∧ n ≤ (2 ^ 10 : Nat) := by
  obtain ⟨r, member, resolved⟩ := exists_resolveRegion_builtIn c.region
  obtain ⟨n, found, bounds⟩ := exists_intensityAt member hour
  exact ⟨n, bind_eq_ok_of resolved (bind_eq_ok_of given (liftM_eq_ok found)), bounds⟩

end EnvironmentTables

/-! ### Sizes and lines -/

theorem length_le_utf8ByteSize (text : String) : text.toList.length ≤ text.utf8ByteSize := by
  have bytes : ∀ cs : List Char, cs.length ≤ String.utf8Len cs := by
    intro cs
    induction cs with
    | nil => exact Nat.le_refl _
    | cons first rest ih =>
      have one := first.utf8Size_pos
      rw [String.utf8Len_cons, List.length_cons]
      omega
  have whole := bytes text.toList
  rwa [← String.utf8ByteSize_ofList, String.ofList_toList] at whole

theorem lineCount_le (text : String) : lineCount text ≤ text.utf8ByteSize + 1 := by
  have breaks := List.count_le_length (a := '\n') (l := text.toList)
  have bytes := length_le_utf8ByteSize text
  unfold lineCount
  omega

theorem upTo_byteLength {text : String} {k : Nat} (small : k ≤ 1023)
    (short : text.utf8ByteSize ≤ 2 ^ k) : (byteLength text).UpTo k := by
  unfold byteLength
  rw [natCast_eq_ofInt]
  exact UpTo.ofRatio Nat.one_pos small (Int.natCast_nonneg _) (Int.ofNat_le.mpr short)

theorem exists_linesOf {content : Option String} {size : Binary64} {k : Nat} (small : k < 1023)
    (up : size.UpTo k) (short : ∀ text ∈ content, text.utf8ByteSize ≤ 2 ^ k) :
    ∃ n, linesOf content size = .ok n ∧ 0 ≤ n ∧ n ≤ (2 ^ (k + 1) : Nat) := by
  have double : 2 ^ (k + 1) = 2 ^ k + 2 ^ k := by rw [pow_succ, mul_two]
  have one : 1 ≤ 2 ^ k := Nat.one_le_two_pow
  cases content with
  | some text =>
    have lines := lineCount_le text
    have bytes := short text rfl
    exact ⟨_, rfl, by omega, by omega⟩
  | none =>
    obtain ⟨-, -, -, -, -, divisor, -⟩ := builtIn_constants
    obtain ⟨n, found, low, high⟩ := (up.div (by omega) divisor.1 divisor.2).ceil (by omega)
    exact ⟨n, found, low, by omega⟩

structure Metrics.UpTo (m : Metrics) (k : Nat) : Prop where
  energy : m.energy.UpTo k
  carbon : m.carbon.UpTo k
  lineCount_nonneg : 0 ≤ m.lineCount
  lineCount_le : m.lineCount ≤ (2 ^ k : Nat)
  gridIntensity_nonneg : 0 ≤ m.gridIntensity
  gridIntensity_le : m.gridIntensity ≤ (2 ^ 10 : Nat)

theorem Metrics.UpTo.mono {m : Metrics} {j k : Nat} (h : m.UpTo j) (le : j ≤ k) : m.UpTo k where
  energy := h.energy.mono le
  carbon := h.carbon.mono le
  lineCount_nonneg := h.lineCount_nonneg
  lineCount_le := h.lineCount_le.trans (Int.ofNat_le.mpr (Nat.pow_le_pow_right (by decide) le))
  gridIntensity_nonneg := h.gridIntensity_nonneg
  gridIntensity_le := h.gridIntensity_le

namespace Meter

/-! ### Figures within range -/

theorem upTo_rawEnergy (parse : String → String → Option Syntax.Tree) (stack : Signals.CallStack) {size lines : Binary64}
    {profile : Profile} {multiplier : Binary64} {environment : Environment} {k : Nat}
    (small : 2 * k + 11 ≤ 1023) (sizeUp : size.UpTo k) (complexity : profile.complexity.UpTo 3)
    (pressure : profile.memPressure.UpTo 2) (language : multiplier.UpTo 1)
    (hardware : environment.hardware.factor.UpTo 2) (region : environment.region.factor.UpTo 1)
    (linesUp : lines.UpTo (k + 1)) :
    (({ parse, stack } : Meter).rawEnergy size profile multiplier environment lines).UpTo (2 * k + 11) := by
  obtain ⟨-, -, one, perKb, kilobyte, -⟩ := builtIn_constants
  have base := (sizeUp.div (by omega) kilobyte.1 kilobyte.2).mul perKb (by omega)
  have content := (base.mul complexity (by omega)).mul pressure (by omega)
  have place := ((content.mul language (by omega)).mul hardware (by omega)).mul region (by omega)
  have length := (one.mono (Nat.zero_le (k + 1))).add linesUp (by omega)
  have total := place.mul length (by omega)
  unfold rawEnergy
  dsimp only
  exact total.mono (by omega)

theorem exists_roundAmount {x : Binary64} {k j : Nat} (h : x.UpTo k) (places : Nat)
    (scale : decimalScale places ≤ 2 ^ j) (small : k + j + 1 ≤ 1023) :
    ∃ a, roundAmount x places = .ok a ∧ a.UpTo (k + j + 1) :=
  (UpTo.max h.rank_le).roundHalfUp scale small

theorem exists_carbonOf {energy : Binary64} {k : Nat} (small : k + 18 ≤ 1023) (up : energy.UpTo k)
    {intensity : Int}
    (low : 0 ≤ intensity) (high : intensity ≤ (2 ^ 10 : Nat)) :
    ∃ a, carbonOf energy intensity = .ok a ∧ a.UpTo (k + 18) := by
  have grid : (ofInt intensity).UpTo 10 := UpTo.ofRatio Nat.one_pos (by omega) low high
  obtain ⟨a, rounded, carbonUp⟩ := exists_roundAmount (j := 7) (up.mul grid (by omega)) 2
    (by decide) (by omega)
  have converted : ofInt? intensity = .ok (ofInt intensity) :=
    refuseInfinite_of_isFinite _ (grid.isFinite (by omega))
  exact ⟨a, bind_eq_ok_of converted rounded, carbonUp.mono (by omega)⟩

theorem exists_thousands {lines : Int} {k : Nat} (small : k ≤ 1023) (low : 0 ≤ lines)
    (high : lines ≤ (2 ^ k : Nat)) : ∃ t, ofRatio? lines 1000 = .ok t ∧ t.UpTo k := by
  have up : (ofRatio lines 1000).UpTo k := UpTo.ofRatio (by omega) small low high
  have quotient : ofRatio? lines (1000 : Nat) = _ := ofRatio?_eq lines (by omega)
  rw [refuseInfinite_of_isFinite _ (up.isFinite small)] at quotient
  exact ⟨_, quotient, up⟩

theorem exists_resolve_builtIn (c : Conditions) :
    ∃ environment, EnvironmentTables.builtIn.resolve c = .ok environment ∧
      environment.region.factor.UpTo 1 ∧ environment.hardware.factor.UpTo 2 := by
  obtain ⟨-, -, regions, hardwares, -⟩ := builtIn_tables
  obtain ⟨region, regionIn, regionOk⟩ := EnvironmentTables.exists_resolveRegion_builtIn c.region
  obtain ⟨hardware, hardwareIn, hardwareOk⟩ :=
    EnvironmentTables.exists_resolveHardware_builtIn c.hardware
  exact ⟨⟨region, hardware⟩, bind_eq_ok_of regionOk (bind_eq_ok_of hardwareOk rfl),
    regions region regionIn, hardwares hardware hardwareIn⟩

theorem exists_rounded_factors {branch : Branch} {complexity memPressure : Binary64}
    {recursive : Bool} (coherent : Coherent branch complexity memPressure recursive) :
    (∃ a, complexity.roundHalfUp (2 : Nat) = .ok a) ∧
      ∃ a, memPressure.roundHalfUp (2 : Nat) = .ok a := by
  obtain ⟨a, complexityOk, -⟩ := exists_roundHalfUp coherent.one_le_complexity
    coherent.complexity_le roundHalfUp_one roundHalfUp_five
  obtain ⟨b, pressureOk, -⟩ := exists_roundHalfUp coherent.one_le_pressure
    coherent.pressure_le roundHalfUp_one roundHalfUp_recursiveComplexity
  exact ⟨⟨a, complexityOk⟩, b, pressureOk⟩

variable {clock : Int} {c : Conditions}

theorem exists_metricsOf (parse : String → String → Option Syntax.Tree) (stack : Signals.CallStack) {hour : Int}
    (given : EnvironmentTables.hourOf clock c.hour = .ok hour) {k : Nat} (small : 2 * k + 40 ≤ 1023)
    {size : Binary64} (sizeUp : size.UpTo k) {lines : Int} (low : 0 ≤ lines)
    (high : lines ≤ (2 ^ (k + 1) : Nat)) {language : Language} (multiplier : language.multiplier.UpTo 1)
    {profile : Profile} {branch : Branch}
    (coherent : Coherent branch profile.complexity profile.memPressure profile.recursive) :
    ∃ m, ({ parse, stack } : Meter).metricsOf clock c size lines language profile = .ok m ∧
      m.UpTo (2 * k + 40) := by
  obtain ⟨five, pressureCap, -⟩ := builtIn_constants
  obtain ⟨environment, resolved, region, hardware⟩ := exists_resolve_builtIn c
  obtain ⟨t, divided, linesUp⟩ := exists_thousands (by omega) low high
  have complexity := five.of_le (le_trans' zero_le_one coherent.one_le_complexity)
    coherent.complexity_le
  have pressure := pressureCap.of_le (le_trans' zero_le_one coherent.one_le_pressure)
    coherent.pressure_le
  obtain ⟨energy, energyOk, energyUp⟩ := exists_roundAmount (j := 10)
    (upTo_rawEnergy parse stack (by omega) sizeUp complexity pressure multiplier hardware region linesUp) 3
    (by decide) (by omega)
  obtain ⟨intensity, gridOk, gridLow, gridHigh⟩ :=
    EnvironmentTables.exists_gridIntensity_builtIn clock given
  obtain ⟨carbon, carbonOk, carbonUp⟩ := exists_carbonOf (by omega) energyUp gridLow gridHigh
  obtain ⟨⟨a, complexityOk⟩, b, pressureOk⟩ := exists_rounded_factors coherent
  refine ⟨⟨energy, carbon, intensity, lines, a, b, profile.recursive, language.tag⟩,
    metricsOf_eq_ok_iff.mpr ⟨⟨environment, t, resolved, divided, energyOk⟩, gridOk, carbonOk, rfl,
      complexityOk, pressureOk, rfl, rfl⟩,
    ⟨energyUp.mono (by omega), carbonUp.mono (by omega), low, high.trans ?_, gridLow, gridHigh⟩⟩
  exact Int.ofNat_le.mpr (Nat.pow_le_pow_right (by decide) (by omega))

theorem coherent_analysisOf (parse : String → String → Option Syntax.Tree) (stack : Signals.CallStack) (u : SourceUnit) :
    let profile := ({ parse, stack } : Meter).scoring.profile (({ parse, stack } : Meter).analysisOf u)
    Coherent (({ parse, stack } : Meter).analysisOf u).branch profile.complexity profile.memPressure
      profile.recursive :=
  Scoring.coherent_profile consistent_analysis

theorem exists_measure (parse : String → String → Option Syntax.Tree) (stack : Signals.CallStack) {hour : Int}
    (given : EnvironmentTables.hourOf clock c.hour = .ok hour) {k : Nat} (small : 2 * k + 40 ≤ 1023)
    {u : SourceUnit} {size : Binary64} (sized : u.byteCount = .ok size) (up : size.UpTo k)
    (short : ∀ text ∈ u.content, text.utf8ByteSize ≤ 2 ^ k) :
    ∃ m, (({ parse, stack } : Meter).measure clock c u).outcome = .ok m ∧ m.metrics.UpTo (2 * k + 40) := by
  obtain ⟨lines, counted, low, high⟩ := exists_linesOf (by omega) up short
  obtain ⟨m, found, figures⟩ := exists_metricsOf parse stack given small up low high
    (LanguageTable.multiplier_classify_builtIn u.name) (coherent_analysisOf parse stack u)
  exact ⟨⟨m, _, _⟩, measure_eq_ok_iff.mpr
    ⟨rfl, rfl, size, lines, sized, counted, metricsOf_eq_ok_iff.mp found⟩, figures⟩

end Meter
end Footprint
