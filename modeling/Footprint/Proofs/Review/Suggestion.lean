import Footprint.Proofs.Batch
import Footprint.Proofs.Binary64.Approximation
import Footprint.Proofs.Coherence
import Footprint.Proofs.Json.Number
import Footprint.Proofs.Review
import Footprint.Proofs.Review.Shape

/-! The suggested review over all complexities. Every complexity of less than `10 ^ 300` has one that is
well formed, and a greater complexity never has a kinder one. The figures that a meter gives, however often
they are combined, stay within the bounds of its complexity and so within the rating of these bounds. -/
namespace Footprint

open Binary64

/-! ### Complexities of any size -/

namespace Binary64

theorem le_of_units_le {x y : Binary64} (hx : x.isFinite = true) (hy : y.isFinite = true)
    (h : x.units ≤ y.units) : x ≤ y := by
  rwa [le_iff_rank (ne_nan_of_isFinite hx) (ne_nan_of_isFinite hy), rank_of_isFinite hx, rank_of_isFinite hy]

theorem abs_toRat_lt_intCast {x : Binary64} {n : Int} : |x.toRat| < n ↔ |x.units| < n * unitsPerOne := by
  have scale : (0 : ℚ) < unitsPerOne := Nat.cast_pos.mpr unitsPerOne_pos
  rw [toRat, abs_div, abs_of_pos scale, div_lt_iff₀ scale, ← Int.cast_natCast unitsPerOne, ← Int.cast_abs,
    ← Int.cast_mul, Int.cast_lt]

structure Moderate (x : Binary64) : Prop where
  isFinite : x.isFinite = true
  magnitude_lt : |x.toRat| < 10 ^ 300

theorem moderate_iff {x : Binary64} :
    x.Moderate ↔ x.isFinite = true ∧ |x.units| < (10 ^ 300 : Int) * unitsPerOne := by
  rw [← abs_toRat_lt_intCast, Int.cast_pow, Int.cast_ofNat]
  exact ⟨fun h => ⟨h.isFinite, h.magnitude_lt⟩, fun h => ⟨h.1, h.2⟩⟩

def moderateLimit : Binary64 := 1e300

theorem moderateLimit_spec :
    (moderateLimit.isFinite = true ∧ (10 ^ 300 : Int) * unitsPerOne ≤ moderateLimit.units) ∧
      (-moderateLimit).isFinite = true ∧ (-moderateLimit).units = -moderateLimit.units := by
  decide +kernel

theorem Moderate.between {x : Binary64} (h : x.Moderate) : -moderateLimit ≤ x ∧ x ≤ moderateLimit := by
  obtain ⟨⟨finite, high⟩, finite', opposite⟩ := moderateLimit_spec
  have inside := lt_of_lt_of_le (moderate_iff.mp h).2 high
  rw [abs_lt] at inside
  constructor
  · exact le_of_units_le finite' h.isFinite (by rw [opposite]; exact inside.1.le)
  · exact le_of_units_le h.isFinite finite inside.2.le

end Binary64

/-! ### Figures that a meter gives -/

/-- The figures that a meter gives: of a file, of a file given by its size and name, of one of several that
are measured together, and of figures of its own that are combined. -/
inductive Meter.Gives (meter : Meter) : Metrics → Prop
  | measured {clock : Int} {c : Conditions} {u : SourceUnit} {measurement : Measurement} :
    (meter.measure clock c u).outcome = .ok measurement → Gives meter measurement.metrics
  | computed {clock : Int} {c : Conditions} {size : Json} {name : String} {content : Option String}
      {m : Metrics} : (meter.compute clock c size name content).outcome = .ok m → Gives meter m
  | together {clock : Int} {c : Conditions} {units : List SourceUnit} {limit : Int} {choices : List Nat}
      {ms : List Measurement} {measurement : Measurement} :
    (Batch.measureMany meter clock c units limit choices).outcome = .ok ms → measurement ∈ ms →
      Gives meter measurement.metrics
  | combined {all : List Metrics} {m : Metrics} :
    (∀ x ∈ all, Gives meter x) → Metrics.aggregate all = .ok m → Gives meter m

theorem Meter.complexity_between_of_measure (meter : Meter) (scoring : meter.scoring = {}) {clock : Int}
    {c : Conditions} {u : SourceUnit} {measurement : Measurement}
    (ok : (meter.measure clock c u).outcome = .ok measurement) :
    1.0 ≤ measurement.metrics.complexity ∧ measurement.metrics.complexity ≤ 5.0 := by
  have coherent := isCoherent_measure scoring ok
  exact ⟨coherent.one_le_complexity, coherent.complexity_le⟩

theorem Meter.Gives.complexity_between {meter : Meter} (scoring : meter.scoring = {}) {m : Metrics}
    (h : meter.Gives m) : 1.0 ≤ m.complexity ∧ m.complexity ≤ 5.0 := by
  induction h with
  | measured ok => exact meter.complexity_between_of_measure scoring ok
  | computed ok =>
    obtain ⟨u, -, ok⟩ := Recorded.exists_of_bind_ok ok
    obtain ⟨measurement, measured, same⟩ := Recorded.exists_of_bind_ok ok
    obtain rfl := Except.ok.inj same
    exact (meter.deeper 1).complexity_between_of_measure scoring measured
  | together ok member =>
    obtain ⟨-, source⟩ := Batch.measureInOrder_eq_ok ok
    obtain ⟨u, -, measured⟩ := source _ member
    exact meter.inWorker.complexity_between_of_measure scoring measured
  | combined each ok ih =>
    obtain ⟨-, member, -⟩ := Metrics.aggregate_eq_ok ok
    obtain ⟨x, inAll, same⟩ := List.mem_map.mp member
    rw [← same]
    exact ih x inAll

namespace Review

/-! ### One review -/

theorem exists_rated_moderateLimit :
    (∃ score percent, Rated moderateLimit score percent) ∧
      ∃ score percent, Rated (-moderateLimit) score percent := by
  have found : ((scoreFor moderateLimit).toOption.isSome ∧ (percentFor moderateLimit).toOption.isSome) ∧
      (scoreFor (-moderateLimit)).toOption.isSome ∧ (percentFor (-moderateLimit)).toOption.isSome := by
    decide +kernel
  simp only [Option.isSome_iff_exists] at found
  obtain ⟨⟨⟨s, score⟩, p, percent⟩, ⟨t, score'⟩, q, percent'⟩ := found
  exact ⟨⟨s, p, eq_ok_of_toOption score, eq_ok_of_toOption percent⟩,
    t, q, eq_ok_of_toOption score', eq_ok_of_toOption percent'⟩

theorem exists_rated_of_moderate {complexity : Binary64} (h : complexity.Moderate) :
    ∃ score percent, Rated complexity score percent := by
  obtain ⟨⟨_, _, high⟩, _, _, low⟩ := exists_rated_moderateLimit
  obtain ⟨s, p, rated, -⟩ := low.exists_between high h.between.1 h.between.2
  exact ⟨s, p, rated⟩

theorem improvementText_eq (percent : Int) :
    improvementText percent = "Estimated " ++ toString percent ++ "% Energy reduction possible." := rfl

theorem eq_of_improvementText_eq {p q : Int} (same : improvementText p = improvementText q) : p = q := by
  rw [improvementText_eq, improvementText_eq, String.append_left_inj, String.append_right_inj] at same
  exact Json.eq_of_toString_int_eq same

theorem remarks_ne_empty :
    (bottleneckHigh ≠ "" ∧ bottleneckLow ≠ "") ∧ optimizationRecursion ≠ "" ∧ optimizationNested ≠ "" ∧
      optimizationDefault ≠ "" := by decide +kernel

theorem Suggested.wellFormed {m : Metrics} {r : Review} {percent : Int} (h : Suggested m r percent) :
    r.WellFormed := by
  obtain ⟨⟨high, low⟩, recursion, nested, plain⟩ := remarks_ne_empty
  constructor
  case graded => exact scoreFor_between h.rated.score
  case bottleneck =>
    rw [h.bottleneck]
    split
    · exact one_le_length_iff.mpr high
    · exact one_le_length_iff.mpr low
  case optimization =>
    rw [h.optimization]
    split
    · exact one_le_length_iff.mpr recursion
    · split
      · exact one_le_length_iff.mpr nested
      · exact one_le_length_iff.mpr plain
  case improvement =>
    have opening : 1 ≤ "Estimated ".length := one_le_length_iff.mpr (by decide)
    rw [h.improvement, improvementText_eq, String.length_append, String.length_append]
    omega

/-! ### Two reviews -/

structure NoKinder (earlier later : Review) : Prop where
  score : later.score ≤ earlier.score
  percent : ∀ p q, earlier.improvement = improvementText p → later.improvement = improvementText q → p ≤ q
  bottleneck : earlier.bottleneck = bottleneckHigh → later.bottleneck = bottleneckHigh
  optimization : earlier.optimization = optimizationNested → later.optimization = optimizationNested

theorem isHigh_of_le {m n : Metrics} (h : m.complexity ≤ n.complexity) (high : isHigh m = true) :
    isHigh n = true := by
  rw [isHigh, decide_eq_true_eq] at high ⊢
  exact lt_of_lt_of_le' high h

theorem remarks_distinct :
    bottleneckLow ≠ bottleneckHigh ∧ optimizationRecursion ≠ optimizationNested ∧
      optimizationDefault ≠ optimizationNested := by decide +kernel

theorem Suggested.bottleneck_eq_high_iff {m : Metrics} {r : Review} {percent : Int} (h : Suggested m r percent) :
    r.bottleneck = bottleneckHigh ↔ isHigh m = true := by
  rw [h.bottleneck]
  split
  case isTrue high => simp [high]
  case isFalse low => simp [low, remarks_distinct.1]

theorem Suggested.optimization_eq_nested_iff {m : Metrics} {r : Review} {percent : Int}
    (h : Suggested m r percent) :
    r.optimization = optimizationNested ↔ m.recursive = false ∧ isHigh m = true := by
  obtain ⟨-, recursion, plain⟩ := remarks_distinct
  rw [h.optimization]
  split
  case isTrue recursive => simp [recursive, recursion]
  case isFalse straight =>
    split
    case isTrue high => simp [straight, high]
    case isFalse low => simp [low, plain]

theorem Suggested.noKinder {m n : Metrics} {earlier later : Review} {p q : Int} (hm : Suggested m earlier p)
    (hn : Suggested n later q) (h : m.complexity ≤ n.complexity) (same : m.recursive = n.recursive) :
    NoKinder earlier later := by
  obtain ⟨score, percent⟩ := hm.rated.le hn.rated h
  constructor
  case score => exact score
  case percent =>
    intro p' q' stated stated'
    rwa [← eq_of_improvementText_eq (hm.improvement.symm.trans stated),
      ← eq_of_improvementText_eq (hn.improvement.symm.trans stated')]
  case bottleneck =>
    rw [hm.bottleneck_eq_high_iff, hn.bottleneck_eq_high_iff]
    exact isHigh_of_le h
  case optimization =>
    rw [hm.optimization_eq_nested_iff, hn.optimization_eq_nested_iff, same]
    exact fun ⟨straight, high⟩ => ⟨straight, isHigh_of_le h high⟩

/-- Figures of any moderate complexity suggest a review, and it is one that is accepted when it is read. A
greater complexity suggests no kinder one. Of the figures that a meter with the built-in weights and caps gives
the score is from 1 to 8 and the percentage from 5 to 25. -/
theorem ofMetrics_grows_no_kinder :
    (∀ m : Metrics, m.complexity.Moderate → ∃ review percent, ofMetrics m = .ok review ∧
      review.improvement = improvementText percent ∧ review.WellFormed ∧ ofJson review.toJson = .ok review) ∧
    (∀ (m n : Metrics) (earlier later : Review), ofMetrics m = .ok earlier → ofMetrics n = .ok later →
      m.complexity ≤ n.complexity → m.recursive = n.recursive → NoKinder earlier later) ∧
    ∀ (meter : Meter) (m : Metrics), meter.scoring = {} → meter.Gives m →
      ∃ review percent, ofMetrics m = .ok review ∧ review.improvement = improvementText percent ∧
        (1 ≤ review.score ∧ review.score ≤ 8) ∧ 5 ≤ percent ∧ percent ≤ 25 := by
  refine ⟨fun m moderate => ?_, fun m n earlier later first second h same => ?_, fun meter m scoring gives => ?_⟩
  · obtain ⟨score, percent, rated⟩ := exists_rated_of_moderate moderate
    obtain ⟨review, ok, -, suggested⟩ := rated.exists_ofMetrics
    have formed := suggested.wellFormed
    exact ⟨review, percent, ok, suggested.improvement, formed, ofJson_toJson_iff.mpr formed⟩
  · obtain ⟨p, suggested⟩ := exists_suggested first
    obtain ⟨q, suggested'⟩ := exists_suggested second
    exact suggested.noKinder suggested' h same
  · obtain ⟨low, high⟩ := gives.complexity_between scoring
    obtain ⟨score, percent, rated, within, stated⟩ := rated_one.exists_between rated_five low high
    obtain ⟨review, ok, rfl, suggested⟩ := rated.exists_ofMetrics
    exact ⟨review, percent, ok, suggested.improvement, within, stated⟩

def figuresAt (complexity : Binary64) : Metrics where
  energy := 0
  carbon := 0
  gridIntensity := 400
  lineCount := 1
  complexity
  memPressure := 1.0
  recursive := false
  language := "python"

theorem figuresAt_farApart :
    ((-1e299 : Binary64).isFinite = true ∧ |(-1e299 : Binary64).units| < (10 ^ 300 : Int) * unitsPerOne) ∧
      ((1e299 : Binary64).isFinite = true ∧ |(1e299 : Binary64).units| < (10 ^ 300 : Int) * unitsPerOne) ∧
      (figuresAt (-1e299)).complexity ≤ (figuresAt 1e299).complexity ∧
      (figuresAt (-1e299)).recursive = (figuresAt 1e299).recursive := by decide +kernel

/-- Complexities far from the bounds on both sides, and a file of which nothing but the size is known. -/
theorem ofMetrics_grows_no_kinder_farApart :
    (∃ earlier later, ofMetrics (figuresAt (-1e299)) = .ok earlier ∧ earlier.WellFormed ∧
      ofMetrics (figuresAt 1e299) = .ok later ∧ later.WellFormed ∧ NoKinder earlier later) ∧
    ∃ m review percent, (({} : Meter).compute 12 {} (.int 99) "g.js" none).outcome = .ok m ∧
      ofMetrics m = .ok review ∧ review.improvement = improvementText percent ∧
      (1 ≤ review.score ∧ review.score ≤ 8) ∧ 5 ≤ percent ∧ percent ≤ 25 := by
  obtain ⟨valid, kept, given⟩ := ofMetrics_grows_no_kinder
  obtain ⟨least, greatest, order, same⟩ := figuresAt_farApart
  obtain ⟨earlier, -, first, -, formed, -⟩ := valid (figuresAt (-1e299)) (moderate_iff.mpr least)
  obtain ⟨later, -, second, -, formed', -⟩ := valid (figuresAt 1e299) (moderate_iff.mpr greatest)
  have computed : (({} : Meter).compute 12 {} (.int 99) "g.js" none).outcome.toOption.isSome := by
    decide +kernel
  obtain ⟨m, found⟩ := Option.isSome_iff_exists.mp computed
  have outcome := eq_ok_of_toOption found
  obtain ⟨review, percent, suggested⟩ := given {} m rfl (.computed outcome)
  exact ⟨⟨earlier, later, first, formed, second, formed', kept _ _ _ _ first second order same⟩,
    m, review, percent, outcome, suggested⟩

end Review
end Footprint
