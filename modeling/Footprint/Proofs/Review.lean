import Footprint.Review
import Footprint.Proofs.Binary64.HalfUp
import Footprint.Proofs.Complexity
import Footprint.Proofs.Outcome

/-! The review that figures alone suggest. Its score falls and its percentage grows with the complexity, and
between two complexities that are rated each is, so that a review exists wherever both bounds have one. Of
figures with recursion it names both the recursion and the high complexity, and its score is of the lowest
grade. -/
namespace Footprint.Review

open Binary64

/-! ### Scores and percentages -/

theorem scoreFor_eq_ok_iff {complexity : Binary64} {score : Int} :
    scoreFor complexity = .ok score ↔
      ∃ n, (complexity * 2).floor? = .ok n ∧ clampScore (10 - n) = score := by
  constructor
  · intro scored
    obtain ⟨n, floorOk, same⟩ := exists_of_bind_eq_ok scored
    exact ⟨n, floorOk, Except.ok.inj same⟩
  · rintro ⟨n, floorOk, rfl⟩
    exact bind_eq_ok_of floorOk rfl

theorem scoreFor_between {complexity : Binary64} {score : Int} (h : scoreFor complexity = .ok score) :
    1 ≤ score ∧ score ≤ 10 := by
  obtain ⟨n, -, rfl⟩ := scoreFor_eq_ok_iff.mp h
  unfold clampScore
  omega

theorem percentFor_eq_ok_iff {complexity : Binary64} {percent : Int} :
    percentFor complexity = .ok percent ↔
      ∃ x, (complexity * 5).roundHalfUp (0 : Nat) = .ok x ∧ x.truncate? = .ok percent := by
  constructor
  · exact exists_of_bind_eq_ok
  · rintro ⟨x, rounded, truncated⟩
    exact bind_eq_ok_of rounded truncated

structure Rated (complexity : Binary64) (score percent : Int) : Prop where
  score : scoreFor complexity = .ok score
  percent : percentFor complexity = .ok percent

theorem weights_pos :
    ((2 : Binary64).isFinite = true ∧ 0 < (2 : Binary64).units) ∧
      (5 : Binary64).isFinite = true ∧ 0 < (5 : Binary64).units := by decide +kernel

section

variable {lo c d hi : Binary64} {score later percent more : Int}

theorem scoreFor_le_scoreFor (h : c ≤ d) (hc : scoreFor c = .ok score) (hd : scoreFor d = .ok later) :
    later ≤ score := by
  obtain ⟨two, pos⟩ := weights_pos.1
  obtain ⟨n, floorC, rfl⟩ := scoreFor_eq_ok_iff.mp hc
  obtain ⟨k, floorD, rfl⟩ := scoreFor_eq_ok_iff.mp hd
  have floors := floor?_le_floor? (mul_le_mul_right h two pos) floorC floorD
  unfold clampScore
  omega

theorem percentFor_le_percentFor (h : c ≤ d) (hc : percentFor c = .ok percent)
    (hd : percentFor d = .ok more) : percent ≤ more := by
  obtain ⟨five, pos⟩ := weights_pos.2
  obtain ⟨x, roundedC, truncatedC⟩ := percentFor_eq_ok_iff.mp hc
  obtain ⟨y, roundedD, truncatedD⟩ := percentFor_eq_ok_iff.mp hd
  have order := roundHalfUp_le_roundHalfUp (mul_le_mul_right h five pos) roundedC roundedD
  exact truncate?_le_truncate? order truncatedC truncatedD

theorem Rated.le (hc : Rated c score percent) (hd : Rated d later more) (h : c ≤ d) :
    later ≤ score ∧ percent ≤ more :=
  ⟨scoreFor_le_scoreFor h hc.score hd.score, percentFor_le_percentFor h hc.percent hd.percent⟩

theorem exists_scoreFor (low : lo ≤ c) (high : c ≤ hi) (hlo : scoreFor lo = .ok score)
    (hhi : scoreFor hi = .ok later) : ∃ middle, scoreFor c = .ok middle := by
  obtain ⟨two, pos⟩ := weights_pos.1
  obtain ⟨n, floorLo, -⟩ := scoreFor_eq_ok_iff.mp hlo
  obtain ⟨k, floorHi, -⟩ := scoreFor_eq_ok_iff.mp hhi
  have finite := isFinite_of_le_of_le (floor?_eq_ok_iff.mp floorLo).1 (floor?_eq_ok_iff.mp floorHi).1
    (mul_le_mul_right low two pos) (mul_le_mul_right high two pos)
  exact ⟨_, scoreFor_eq_ok_iff.mpr ⟨_, floor?_eq_ok_iff.mpr ⟨finite, rfl⟩, rfl⟩⟩

theorem exists_percentFor (low : lo ≤ c) (high : c ≤ hi) (hlo : percentFor lo = .ok percent)
    (hhi : percentFor hi = .ok more) : ∃ middle, percentFor c = .ok middle := by
  obtain ⟨five, pos⟩ := weights_pos.2
  obtain ⟨x, roundedLo, -⟩ := percentFor_eq_ok_iff.mp hlo
  obtain ⟨y, roundedHi, -⟩ := percentFor_eq_ok_iff.mp hhi
  obtain ⟨z, rounded, -, -⟩ := exists_roundHalfUp (mul_le_mul_right low five pos)
    (mul_le_mul_right high five pos) roundedLo roundedHi
  obtain ⟨middle, truncated⟩ := exists_truncate? (roundHalfUp_eq_ok_iff.mp rounded).2.1
  exact ⟨middle, percentFor_eq_ok_iff.mpr ⟨z, rounded, truncated⟩⟩

theorem Rated.exists_between (hlo : Rated lo score percent) (hhi : Rated hi later more) (low : lo ≤ c)
    (high : c ≤ hi) :
    ∃ s p, Rated c s p ∧ (later ≤ s ∧ s ≤ score) ∧ percent ≤ p ∧ p ≤ more := by
  obtain ⟨s, scored⟩ := exists_scoreFor low high hlo.score hhi.score
  obtain ⟨p, stated⟩ := exists_percentFor low high hlo.percent hhi.percent
  have rated : Rated c s p := ⟨scored, stated⟩
  obtain ⟨most, least⟩ := hlo.le rated low
  obtain ⟨atLeast, atMost⟩ := rated.le hhi high
  exact ⟨s, p, rated, ⟨atLeast, most⟩, least, atMost⟩

end

theorem rated_one : Rated 1.0 8 5 := by
  constructor <;> exact eq_ok_of_toOption (by decide +kernel)

theorem rated_five : Rated 5.0 1 25 := by
  constructor <;> exact eq_ok_of_toOption (by decide +kernel)

theorem scoreFor_le_five {complexity : Binary64} (low : recursiveComplexity ≤ complexity) {score : Int}
    (scored : scoreFor complexity = .ok score) : score ≤ 5 := by
  have five : (scoreFor recursiveComplexity).toOption = some 5 := by decide +kernel
  exact scoreFor_le_scoreFor low (eq_ok_of_toOption five) scored

/-! ### The review -/

structure Suggested (m : Metrics) (r : Review) (percent : Int) : Prop where
  rated : Rated m.complexity r.score percent
  bottleneck : r.bottleneck = if isHigh m then bottleneckHigh else bottleneckLow
  optimization : r.optimization =
    if m.recursive then optimizationRecursion else if isHigh m then optimizationNested else optimizationDefault
  improvement : r.improvement = improvementText percent

theorem exists_suggested {m : Metrics} {r : Review} (h : ofMetrics m = .ok r) :
    ∃ percent, Suggested m r percent := by
  obtain ⟨score, scored, h⟩ := exists_of_bind_eq_ok h
  obtain ⟨percent, stated, h⟩ := exists_of_bind_eq_ok h
  obtain rfl := Except.ok.inj h
  refine ⟨percent, ?_⟩
  constructor
  case rated => exact ⟨scored, stated⟩
  all_goals dsimp only

theorem Rated.exists_ofMetrics {m : Metrics} {score percent : Int} (h : Rated m.complexity score percent) :
    ∃ r, ofMetrics m = .ok r ∧ r.score = score ∧ Suggested m r percent := by
  obtain ⟨r, ok⟩ : ∃ r, ofMetrics m = .ok r := ⟨_, bind_eq_ok_of h.score (bind_eq_ok_of h.percent rfl)⟩
  obtain ⟨other, suggested⟩ := exists_suggested ok
  obtain rfl := Except.ok.inj (h.score.symm.trans suggested.rated.score)
  obtain rfl := Except.ok.inj (h.percent.symm.trans suggested.rated.percent)
  exact ⟨r, ok, rfl, suggested⟩

theorem exists_ofMetrics {m : Metrics} (low : 1.0 ≤ m.complexity) (high : m.complexity ≤ 5.0) :
    ∃ review, ofMetrics m = .ok review := by
  obtain ⟨score, percent, rated, -⟩ := rated_one.exists_between rated_five low high
  obtain ⟨review, ok, -⟩ := rated.exists_ofMetrics
  exact ⟨review, ok⟩

theorem ofMetrics_of_recursive {m : Metrics} (recursive : m.recursive = true)
    (low : recursiveComplexity ≤ m.complexity) (high : m.complexity ≤ 5.0) :
    ∃ review, ofMetrics m = .ok review ∧ review.optimization = optimizationRecursion ∧
      review.bottleneck = bottleneckHigh ∧ review.score ≤ 5 ∧ Tier.ofScore review.score = .low := by
  obtain ⟨review, ok⟩ := exists_ofMetrics (le_trans' one_le_recursiveComplexity low) high
  obtain ⟨percent, rated, bottleneck, optimization, -⟩ := exists_suggested ok
  have le := scoreFor_le_five low rated.score
  have isHigh : isHigh m = true := decide_eq_true (lt_of_lt_of_le' (by decide +kernel) low)
  rw [if_pos isHigh] at bottleneck
  rw [if_pos recursive] at optimization
  refine ⟨review, ok, optimization, bottleneck, le, ?_⟩
  unfold Tier.ofScore
  rw [if_neg (by omega), if_neg (by omega)]

end Footprint.Review
