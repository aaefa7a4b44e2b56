import Footprint.Panel
import Footprint.Proofs.Review
import Footprint.Proofs.Review.Shape

/-! The scores of reviews. A review that a reviewer gives counts only with a score from 1 to 10, and the
figures suggest no other, so that every verdict has one. -/
namespace Footprint

theorem Review.graded_of_ofMetrics {m : Metrics} {review : Review} (h : ofMetrics m = .ok review) :
    review.Graded := by
  obtain ⟨percent, suggested⟩ := exists_suggested h
  exact scoreFor_between suggested.rated.score

namespace Panel

variable {σ : Type}

theorem graded_of_consult (source : String) (m : Metrics) (reviewers : List (Reviewer σ))
    (cancelled : Bool) (world : σ) :
    ∀ given ∈ (consult source m reviewers cancelled world).1.accepted, given.2.Graded := by
  fun_induction consult source m reviewers cancelled world with
  | case1 => simp
  | case2 => simp
  | case3 reviewer rest world answer after asked review valid =>
    rintro given ⟨⟩
    unfold Answer.review at valid
    split at valid
    · cases valid
    split at valid
    · next read =>
      obtain rfl := Except.ok.inj valid
      exact Review.graded_of_ofJson read
    · cases valid
  | case4 r rest world answer after asked reason invalid later world' next ih =>
    rw [next] at ih
    exact ih

theorem graded_of_synthesize {panel : Panel σ} {content : Option String} {m : Metrics}
    {cancelled : Bool} {world : σ} {verdict : Verdict}
    (h : (panel.synthesize content m cancelled world).1.outcome = .ok verdict) :
    verdict.review.Graded := by
  have accepted := graded_of_consult (truncate content panel.maxChars) m panel.reviewers cancelled world
  change (panel.conclude m _).outcome = .ok verdict at h
  generalize (consult (truncate content panel.maxChars) m panel.reviewers cancelled world).1 = c
    at h accepted
  unfold conclude at h
  split at h
  · next name review given =>
    obtain rfl := Except.ok.inj h
    exact accepted _ given
  · split at h
    · obtain ⟨review, suggested, h⟩ := exists_of_bind_eq_ok h
      obtain rfl := Except.ok.inj h
      exact Review.graded_of_ofMetrics (ofArithmetic_eq_ok_iff.mp suggested)
    · cases h

end Panel
end Footprint
