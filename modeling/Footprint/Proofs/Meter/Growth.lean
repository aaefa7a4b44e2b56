import Footprint.Proofs.Binary64.Approximation
import Footprint.Proofs.Binary64.Within
import Footprint.Proofs.Environment
import Footprint.Proofs.Metrics.Range
import Footprint.Proofs.SourceUnit

/-! Larger files cost no less, and the night costs no more. The size enters the energy twice, with the base
and with the lines that are estimated from it; every factor is positive, so that each rounded product of the
chain keeps the order, and so do the two roundings at its end. The hour enters the grid alone. -/
namespace Footprint

open Binary64

/-! ### Sizes -/

/-- The exact number that a value is written as, for whole numbers and for doubles that are finite. -/
def Json.value? : Json → Option ℚ
  | .int n => some n
  | .float x => if x.isFinite then some x.toRat else none
  | _ => none

namespace Json

theorem value?_float {x : Binary64} (finite : x.isFinite = true) : (float x).value? = some x.toRat :=
  if_pos finite

theorem rank_of_value {s : Json} {v : ℚ} (given : s.value? = some v) {b : Binary64}
    (taken : s.toNumber = .ok b) :
    b ≠ nan ∧ ∃ units : Int, v = units / unitsPerOne ∧ b.rank = roundRatio units 1 := by
  cases s with
  | int n =>
    obtain rfl := Option.some.inj given
    obtain ⟨rank, number⟩ := rank_ofInt n
    obtain ⟨rfl, -⟩ := isFinite_of_refuseInfinite number (ofArithmetic_eq_ok_iff.mp taken)
    refine ⟨number, _, ?_, rank⟩
    rw [Int.cast_mul, Int.cast_natCast, mul_div_assoc, div_self unitsPerOne_ne_zero, mul_one]
  | float x =>
    rw [value?] at given
    split at given
    · next bounded =>
      obtain rfl := Option.some.inj given
      obtain rfl := Except.ok.inj ((toNumber_float bounded).symm.trans taken)
      have same := roundRatio_units bounded Nat.one_pos
      rw [Nat.cast_one, mul_one] at same
      exact ⟨ne_nan_of_isFinite bounded, x.units, rfl, by rw [rank_of_isFinite bounded, same]⟩
    · cases given
  | _ => cases given

theorem toNumber_le_toNumber {s s' : Json} {v v' : ℚ} (given : s.value? = some v)
    (given' : s'.value? = some v') (le : v ≤ v') {b b' : Binary64} (taken : s.toNumber = .ok b)
    (taken' : s'.toNumber = .ok b') : b ≤ b' := by
  obtain ⟨number, units, rfl, rank⟩ := rank_of_value given taken
  obtain ⟨number', units', rfl, rank'⟩ := rank_of_value given' taken'
  have one : (0 : ℚ) < unitsPerOne := Nat.cast_pos.mpr unitsPerOne_pos
  have order : units ≤ units' := Int.cast_le.mp ((div_le_div_iff_of_pos_right one).mp le)
  rw [le_iff_rank number number', rank, rank']
  refine roundRatio_le_roundRatio Nat.one_pos Nat.one_pos ?_
  rwa [Nat.cast_one, mul_one, mul_one]

end Json

theorem SourceUnit.within_byteCount {u u' : SourceUnit} {v v' : ℚ} (given : u.size.value? = some v)
    (given' : u'.size.value? = some v') (le : v ≤ v') {b b' : Binary64} (sized : u.byteCount = .ok b)
    (sized' : u'.byteCount = .ok b') : Binary64.Within b b' := by
  obtain ⟨x, taken, rfl⟩ := exists_of_map_eq_ok sized
  obtain ⟨x', taken', rfl⟩ := exists_of_map_eq_ok sized'
  exact .max_zero (Json.toNumber_le_toNumber given given' le taken taken')

/-! ### Factors -/

theorem builtIn_positive :
    (∀ entry ∈ LanguageTable.builtIn.multipliers, entry.2.Positive) ∧
      LanguageTable.builtIn.default.multiplier.Positive ∧
      (∀ r ∈ EnvironmentTables.builtIn.regions.map Prod.snd, r.factor.Positive) ∧
      (∀ h ∈ EnvironmentTables.builtIn.hardware.map Prod.snd, h.factor.Positive) ∧
      (0.0001 : Binary64).Positive ∧ (1024 : Binary64).Positive ∧ bytesPerLine.Positive ∧
      (1.0 : Binary64).Positive ∧ (1 : Binary64).Positive := by
  decide +kernel

theorem builtIn_grids :
    ∀ r ∈ EnvironmentTables.builtIn.regions.map Prod.snd,
      ∃ night ∈ (ofInt? r.intensity >>= fun x => (x * nightFactor).roundToInteger).toOption,
        ∃ day ∈ (ofInt? r.intensity >>= fun x => (x * dayFactor).roundToInteger).toOption,
          (ofInt night).Positive ∧ (ofInt day).Positive ∧ night ≤ day := by
  decide +kernel

theorem positive_multiplier_builtIn (name : String) :
    (LanguageTable.builtIn.classify name).multiplier.Positive := by
  obtain ⟨entries, default, -⟩ := builtIn_positive
  exact LanguageTable.multiplier_of_forall (P := Positive) entries default name

theorem positive_factors_of_resolve {c : Conditions} {e : Environment}
    (h : EnvironmentTables.builtIn.resolve c = .ok e) :
    e.region.factor.Positive ∧ e.hardware.factor.Positive := by
  obtain ⟨-, -, regions, hardwares, -⟩ := builtIn_positive
  obtain ⟨region, hardware⟩ := EnvironmentTables.resolve_eq_ok_iff.mp h
  obtain ⟨r, member, found⟩ := EnvironmentTables.exists_resolveRegion_builtIn c.region
  obtain ⟨d, memberDevice, foundDevice⟩ := EnvironmentTables.exists_resolveHardware_builtIn c.hardware
  rw [Except.ok.inj (region.symm.trans found), Except.ok.inj (hardware.symm.trans foundDevice)]
  exact ⟨regions r member, hardwares d memberDevice⟩

/-! ### The chain of products -/

theorem within_linesOf {content : Option String} {size size' : Binary64} (h : Within size size')
    {lines lines' : Int} (counted : linesOf content size = .ok lines)
    (counted' : linesOf content size' = .ok lines') : 0 ≤ lines ∧ lines ≤ lines' := by
  refine ⟨linesOf_nonneg h.nonneg counted, ?_⟩
  cases content with
  | some text => exact (Except.ok.inj (counted.symm.trans counted')).le
  | none =>
    obtain ⟨-, -, -, -, -, -, perLine, -⟩ := builtIn_positive
    exact ceil?_le_ceil? (h.div_right perLine).le counted counted'

theorem within_thousands {lines lines' : Int} (nonneg : 0 ≤ lines) (le : lines ≤ lines')
    {t t' : Binary64} (divided : ofRatio? lines 1000 = .ok t) (divided' : ofRatio? lines' 1000 = .ok t') :
    Within t t' ∧ t.isFinite = true ∧ t'.isFinite = true := by
  have exact {n : Int} {x : Binary64} (h : ofRatio? n 1000 = .ok x) :
      ofRatio n 1000 = x ∧ x.isFinite = true := by
    have quotient := (ofRatio?_eq n (d := 1000) (by decide)).symm.trans h
    exact isFinite_of_refuseInfinite (rank_ofRatio n (by decide)).2 quotient
  obtain ⟨rfl, finite⟩ := exact divided
  obtain ⟨rfl, finite'⟩ := exact divided'
  have zero : ofRatio 0 1000 = 0 := by decide +kernel
  exact ⟨⟨zero ▸ ofRatio_le_ofRatio nonneg (by decide), ofRatio_le_ofRatio le (by decide)⟩, finite, finite'⟩

namespace Meter

theorem within_rawEnergy (parse : String → String → Option Syntax.Tree) (stack : Signals.CallStack)
    {size size' t t' : Binary64} (h : Within size size') {profile : Profile} (complexity : profile.complexity.Positive)
    (pressure : profile.memPressure.Positive) {multiplier : Binary64} (language : multiplier.Positive)
    {environment : Environment} (region : environment.region.factor.Positive)
    (hardware : environment.hardware.factor.Positive) (lines : Within t t') (finite : t.isFinite = true)
    (finite' : t'.isFinite = true) :
    Within (({ parse, stack } : Meter).rawEnergy size profile multiplier environment t)
      (({ parse, stack } : Meter).rawEnergy size' profile multiplier environment t') := by
  obtain ⟨-, -, -, -, perKb, kilobyte, -, -, one⟩ := builtIn_positive
  have nonneg : (0 : Binary64) ≤ 1 := by decide +kernel
  have base := (h.div_right kilobyte).mul_right perKb
  have content := (base.mul_right complexity).mul_right pressure
  have place := ((content.mul_right language).mul_right hardware).mul_right region
  have nonneg' := le_trans' lines.nonneg lines.le
  have length := (Within.refl nonneg).add lines
  exact place.mul (one.of_le (le_add nonneg lines.nonneg).1 (isFinite_one_add lines.nonneg finite))
    length.le (isFinite_one_add nonneg' finite')

theorem within_carbonOf {energy energy' : Binary64} (h : Within energy energy') {grid grid' : Int}
    (positive : (ofInt grid).Positive) (le : grid ≤ grid') {a a' : Binary64}
    (carbon : carbonOf energy grid = .ok a) (carbon' : carbonOf energy' grid' = .ok a') : Within a a' := by
  obtain ⟨x, converted, rounded⟩ := exists_of_bind_eq_ok carbon
  obtain ⟨x', converted', rounded'⟩ := exists_of_bind_eq_ok carbon'
  obtain ⟨rfl, -⟩ := isFinite_of_refuseInfinite (rank_ofInt grid).2 converted
  obtain ⟨rfl, finite⟩ := isFinite_of_refuseInfinite (rank_ofInt grid').2 converted'
  have product := h.mul positive (ofRatio_le_ofRatio le Nat.one_pos) finite
  exact (Within.max_zero product.le).roundHalfUp rounded rounded'

theorem positive_profile (parse : String → String → Option Syntax.Tree) (stack : Signals.CallStack)
    (u : SourceUnit) :
    let profile := ({ parse, stack } : Meter).scoring.profile (({ parse, stack } : Meter).analysisOf u)
    profile.complexity.Positive ∧ profile.memPressure.Positive := by
  obtain ⟨-, -, -, -, -, -, -, one, -⟩ := builtIn_positive
  obtain ⟨five, cap, -⟩ := builtIn_constants
  have coherent := coherent_analysisOf parse stack u
  exact ⟨one.of_le coherent.one_le_complexity (isFinite_of_le_of_le one.isFinite
      (five.isFinite (by omega)) coherent.one_le_complexity coherent.complexity_le),
    one.of_le coherent.one_le_pressure (isFinite_of_le_of_le one.isFinite (cap.isFinite (by omega))
      coherent.one_le_pressure coherent.pressure_le)⟩

/-! ### Larger files -/

variable {parse : String → String → Option Syntax.Tree} {stack : Signals.CallStack} {clock : Int}
  {c : Conditions}

theorem exists_region_of_gridIntensity {grid : Int}
    (h : EnvironmentTables.builtIn.gridIntensity clock c = .ok grid) :
    ∃ r ∈ EnvironmentTables.builtIn.regions.map Prod.snd,
      EnvironmentTables.builtIn.resolveRegion c.region = .ok r ∧
      ∃ hour, EnvironmentTables.hourOf clock c.hour = .ok hour ∧
        (ofInt? r.intensity >>= fun x => (x * hourFactor hour).roundToInteger) = .ok grid := by
  obtain ⟨region, regionOk, h⟩ := exists_of_bind_eq_ok h
  obtain ⟨hour, hourOk, h⟩ := exists_of_bind_eq_ok h
  obtain ⟨r, member, found⟩ := EnvironmentTables.exists_resolveRegion_builtIn c.region
  obtain rfl := Except.ok.inj (found.symm.trans regionOk)
  exact ⟨r, member, found, hour, hourOk, ofArithmetic_eq_ok_iff.mp h⟩

theorem positive_grid {grid : Int} (h : EnvironmentTables.builtIn.gridIntensity clock c = .ok grid) :
    (ofInt grid).Positive := by
  obtain ⟨r, member, -, hour, -, intensity⟩ := exists_region_of_gridIntensity h
  obtain ⟨night, nightIs, day, dayIs, nightPositive, dayPositive, -⟩ := builtIn_grids r member
  obtain factor | factor := EnvironmentTables.hourFactor_cases hour
  · rw [factor] at intensity
    exact Except.ok.inj ((eq_ok_of_toOption nightIs).symm.trans intensity) ▸ nightPositive
  · rw [factor] at intensity
    exact Except.ok.inj ((eq_ok_of_toOption dayIs).symm.trans intensity) ▸ dayPositive

structure AtLeast (m m' : Metrics) : Prop where
  lineCount : m.lineCount ≤ m'.lineCount
  energy : m.energy ≤ m'.energy
  carbon : m.carbon ≤ m'.carbon

theorem atLeast_of_sizes {u : SourceUnit} {s s' : Json} {v v' : ℚ} (given : s.value? = some v)
    (given' : s'.value? = some v') (le : v ≤ v') {m m' : Measurement}
    (h : (({ parse, stack } : Meter).measure clock c { u with size := s }).outcome = .ok m)
    (h' : (({ parse, stack } : Meter).measure clock c { u with size := s' }).outcome = .ok m') :
    AtLeast m.metrics m'.metrics := by
  obtain ⟨-, -, size, lines, sized, counted, figures⟩ := measure_eq_ok_iff.mp h
  obtain ⟨-, -, size', lines', sized', counted', figures'⟩ := measure_eq_ok_iff.mp h'
  obtain ⟨e, t, resolved, divided, energy⟩ := figures.energy
  obtain ⟨e', t', resolved', divided', energy'⟩ := figures'.energy
  obtain rfl := Except.ok.inj (resolved.symm.trans resolved')
  have bytes := SourceUnit.within_byteCount given given' le sized sized'
  obtain ⟨low, more⟩ := within_linesOf bytes counted counted'
  obtain ⟨thousands, finite, finite'⟩ := within_thousands low more divided divided'
  obtain ⟨complexity, pressure⟩ := positive_profile parse stack u
  obtain ⟨region, hardware⟩ := positive_factors_of_resolve resolved
  have raw := within_rawEnergy parse stack bytes complexity pressure (positive_multiplier_builtIn u.name)
    region hardware thousands finite finite'
  have rounded := (Within.max_zero raw.le).roundHalfUp energy energy'
  have grid := Except.ok.inj (figures.gridIntensity.symm.trans figures'.gridIntensity)
  have carbon := within_carbonOf rounded (positive_grid figures.gridIntensity) grid.le figures.carbon
    figures'.carbon
  exact ⟨by rw [figures.lineCount, figures'.lineCount]; exact more, rounded.le, carbon.le⟩

/-! ### Hours -/

structure NightAndDay (m m' : Metrics) : Prop where
  gridIntensity : m.gridIntensity ≤ m'.gridIntensity
  carbon : m.carbon ≤ m'.carbon

theorem hourOf_int (clock hour : Int) : EnvironmentTables.hourOf clock (.int hour) = .ok (hour % 24) := rfl

theorem nightAndDay_of_hours {clock' hour hour' : Int} {u : SourceUnit} {m m' : Measurement}
    (h : (({ parse, stack } : Meter).measure clock { c with hour := .int hour } u).outcome = .ok m)
    (h' : (({ parse, stack } : Meter).measure clock' { c with hour := .int hour' } u).outcome = .ok m') :
    m'.metrics.energy = m.metrics.energy ∧ m'.metrics.lineCount = m.metrics.lineCount ∧
      m'.metrics.complexity = m.metrics.complexity ∧ m'.metrics.memPressure = m.metrics.memPressure ∧
      (isNightHour (hour % 24) = true → isNightHour (hour' % 24) = false →
        NightAndDay m.metrics m'.metrics) := by
  have range := inRange_of_measure h
  obtain ⟨-, -, size, lines, sized, counted, figures⟩ := measure_eq_ok_iff.mp h
  obtain ⟨-, -, size', lines', sized', counted', figures'⟩ := measure_eq_ok_iff.mp h'
  obtain rfl := Except.ok.inj (sized.symm.trans sized')
  obtain rfl := Except.ok.inj (counted.symm.trans counted')
  obtain ⟨e, t, resolved, divided, energy⟩ := figures.energy
  obtain ⟨e', t', resolved', divided', energy'⟩ := figures'.energy
  obtain rfl := Except.ok.inj (resolved.symm.trans resolved')
  obtain rfl := Except.ok.inj (divided.symm.trans divided')
  have same := Except.ok.inj (energy'.symm.trans energy)
  refine ⟨same, figures'.lineCount.trans figures.lineCount.symm,
    Except.ok.inj (figures'.complexity.symm.trans figures.complexity),
    Except.ok.inj (figures'.memPressure.symm.trans figures.memPressure), fun night day => ?_⟩
  have grid : m.metrics.gridIntensity ≤ m'.metrics.gridIntensity := by
    obtain ⟨r, member, found, _, hourOk, intensity⟩ := exists_region_of_gridIntensity figures.gridIntensity
    obtain ⟨r', -, found', _, hourOk', intensity'⟩ :=
      exists_region_of_gridIntensity figures'.gridIntensity
    obtain rfl := Except.ok.inj (found.symm.trans found')
    obtain rfl := Except.ok.inj hourOk
    obtain rfl := Except.ok.inj hourOk'
    obtain ⟨atNight, nightIs, byDay, dayIs, -, -, le⟩ := builtIn_grids r member
    rw [hourFactor, if_pos night] at intensity
    rw [hourFactor, day] at intensity'
    rw [← Except.ok.inj ((eq_ok_of_toOption nightIs).symm.trans intensity),
      ← Except.ok.inj ((eq_ok_of_toOption dayIs).symm.trans intensity')]
    exact le
  have kept : Within m.metrics.energy m'.metrics.energy := by
    rw [same]
    exact .refl range.energy_nonneg
  have carbon := within_carbonOf kept (positive_grid figures.gridIntensity) grid figures.carbon
    figures'.carbon
  exact ⟨grid, carbon.le⟩

theorem measure_of_hours {meter : Meter} {clock' hour hour' : Int} (same : hour % 24 = hour' % 24)
    (u : SourceUnit) : meter.measure clock { c with hour := .int hour } u =
      meter.measure clock' { c with hour := .int hour' } u := by
  have alike : Conditions.SameAt clock clock' { c with hour := .int hour } { c with hour := .int hour' } :=
    ⟨rfl, rfl, by rw [hourOf_int, hourOf_int, same]⟩
  exact measure_sameAt alike u

/-! ### The figures of a file -/

theorem value?_ne_null {s : Json} {v : ℚ} (given : s.value? = some v) : s.isNull = false := by
  cases s with
  | null => cases given
  | _ => rfl

theorem exists_measure_of_compute {name : String} {content : Option String} {s : Json} {v : ℚ}
    (given : s.value? = some v) {m : Metrics}
    (h : (({ parse, stack } : Meter).compute clock c s name content).outcome = .ok m) :
    ∃ measurement, (({ parse, stack := stack.enter 1 } : Meter).measure clock c
      ⟨name, s, content, ""⟩).outcome = .ok measurement ∧ measurement.metrics = m := by
  have taken : (SourceUnit.mk name s content "").takenSize = s := by
    rw [SourceUnit.takenSize, value?_ne_null given]
    rfl
  have outcome := outcome_compute_takenSize { parse, stack } clock c ⟨name, s, content, ""⟩
  rw [taken] at outcome
  exact exists_of_map_eq_ok (outcome.symm.trans h)

/-- Under the built-in tables and constants, and whatever the parser finds: of two sizes that are numbers
the greater one gives no fewer lines, no less energy and no less carbon, wherever both have figures. The
hour changes the grid and the carbon alone, both are no greater at night than by day, and hours a day
apart are not told apart. -/
theorem figures_grow (parse : String → String → Option Syntax.Tree) (stack : Signals.CallStack) :
    (∀ (clock : Int) (c : Conditions) (u : SourceUnit) (s s' : Json) (v v' : ℚ) (m m' : Measurement),
      s.value? = some v → s'.value? = some v' → v ≤ v' →
      (({ parse, stack } : Meter).measure clock c { u with size := s }).outcome = .ok m →
      (({ parse, stack } : Meter).measure clock c { u with size := s' }).outcome = .ok m' →
        AtLeast m.metrics m'.metrics) ∧
    (∀ (clock : Int) (c : Conditions) (name : String) (content : Option String) (s s' : Json) (v v' : ℚ)
      (m m' : Metrics), s.value? = some v → s'.value? = some v' → v ≤ v' →
      (({ parse, stack } : Meter).compute clock c s name content).outcome = .ok m →
      (({ parse, stack } : Meter).compute clock c s' name content).outcome = .ok m' → AtLeast m m') ∧
    (∀ (clock clock' : Int) (c : Conditions) (u : SourceUnit) (hour hour' : Int) (m m' : Measurement),
      (({ parse, stack } : Meter).measure clock { c with hour := .int hour } u).outcome = .ok m →
      (({ parse, stack } : Meter).measure clock' { c with hour := .int hour' } u).outcome = .ok m' →
        m'.metrics.energy = m.metrics.energy ∧ m'.metrics.lineCount = m.metrics.lineCount ∧
        m'.metrics.complexity = m.metrics.complexity ∧ m'.metrics.memPressure = m.metrics.memPressure ∧
        (isNightHour (hour % 24) = true → isNightHour (hour' % 24) = false →
          NightAndDay m.metrics m'.metrics)) ∧
    ∀ (clock clock' : Int) (c : Conditions) (u : SourceUnit) (hour hour' : Int), hour % 24 = hour' % 24 →
      ({ parse, stack } : Meter).measure clock { c with hour := .int hour } u =
        ({ parse, stack } : Meter).measure clock' { c with hour := .int hour' } u := by
  refine ⟨fun clock c u s s' v v' m m' given given' le h h' => atLeast_of_sizes given given' le h h',
    fun clock c name content s s' v v' m m' given given' le h h' => ?_,
    fun clock clock' c u hour hour' m m' h h' => nightAndDay_of_hours h h',
    fun clock clock' c u hour hour' same => measure_of_hours same u⟩
  obtain ⟨measurement, measured, rfl⟩ := exists_measure_of_compute given h
  obtain ⟨measurement', measured', rfl⟩ := exists_measure_of_compute given' h'
  exact atLeast_of_sizes (u := ⟨name, .null, content, ""⟩) given given' le measured measured'

def dataFile : SourceUnit := ⟨"data.bin", .null, none, "js"⟩

def lateEvening : Conditions where
  hour := .int (-2)

def noon : Conditions where
  hour := .int 12

theorem figures_of_dataFile :
    (({} : Meter).measure 0 noon { dataFile with size := .int 102400 }).outcome.toOption =
        some ⟨⟨0.034, 12.51, 368, 2048, 1.0, 1.0, false, "js"⟩, .sizeOnly, "data.bin"⟩ ∧
      (({} : Meter).measure 0 noon { dataFile with size := .float 204800.5 }).outcome.toOption =
        some ⟨⟨0.112, 41.22, 368, 4097, 1.0, 1.0, false, "js"⟩, .sizeOnly, "data.bin"⟩ ∧
      (({} : Meter).measure 0 lateEvening { dataFile with size := .int 102400 }).outcome.toOption =
        some ⟨⟨0.034, 8.16, 240, 2048, 1.0, 1.0, false, "js"⟩, .sizeOnly, "data.bin"⟩ := by
  decide +kernel

theorem figures_grow_dataFile :
    ∃ small large night : Measurement,
      (({} : Meter).measure 0 noon { dataFile with size := .int 102400 }).outcome = .ok small ∧
      (({} : Meter).measure 0 noon { dataFile with size := .float 204800.5 }).outcome = .ok large ∧
      (({} : Meter).measure 0 lateEvening { dataFile with size := .int 102400 }).outcome = .ok night ∧
      AtLeast small.metrics large.metrics ∧ NightAndDay night.metrics small.metrics ∧
      ({} : Meter).measure 0 lateEvening dataFile =
        ({} : Meter).measure 5 { lateEvening with hour := .int 46 } dataFile := by
  obtain ⟨small, large, night⟩ := figures_of_dataFile
  obtain ⟨sizes, -, hours, days⟩ := figures_grow Analysis.parse? {}
  have value : (204800.5 : Binary64).isFinite = true ∧ 102400 ≤ (204800.5 : Binary64).toRat := by
    decide +kernel
  have smallOk := eq_ok_of_toOption small
  have largeOk := eq_ok_of_toOption large
  have nightOk := eq_ok_of_toOption night
  exact ⟨_, _, _, smallOk, largeOk, nightOk,
    sizes 0 noon dataFile _ _ 102400 _ _ _ rfl (Json.value?_float value.1) value.2 smallOk largeOk,
    (hours 0 0 {} { dataFile with size := .int 102400 } (-2) 12 _ _ nightOk smallOk).2.2.2.2
      (by decide) (by decide),
    days 0 5 {} dataFile (-2) 46 (by decide)⟩

/-- An infinite size is above every other one and counts as no bytes at all, so that a greater size may
give smaller figures when it is not a number. -/
theorem infinite_size_counts_as_none :
    (0 : Binary64) ≤ 102400 ∧ (102400 : Binary64) ≤ .infinite false ∧
      (({} : Meter).measure 0 noon { dataFile with size := .float 102400 }).outcome.toOption =
        some ⟨⟨0.034, 12.51, 368, 2048, 1.0, 1.0, false, "js"⟩, .sizeOnly, "data.bin"⟩ ∧
      (({} : Meter).measure 0 noon { dataFile with size := .float (.infinite false) }).outcome.toOption =
        some ⟨⟨0, 0, 368, 0, 1.0, 1.0, false, "js"⟩, .sizeOnly, "data.bin"⟩ := by
  decide +kernel

end Meter

end Footprint
