import Footprint.Panel
import Mathlib.Data.List.Basic
import Mathlib.Tactic.Cases

/-! Which review a panel ends up with. Two places of the list of reviewers settle it: the first one
found cancelled when its turn comes, and the first one whose answer holds a valid review. Both are
read off the answers that the reviewers give when all of them are asked in order. -/
namespace Footprint

variable {σ : Type}

def Answer.reason (a : Answer) : String :=
  match a.review with
  | .ok _ => ""
  | .error reason => reason

structure Call where
  place : Nat
  source : String
  metrics : Metrics
  deriving DecidableEq

def Reviewer.traced (r : Reviewer σ) (place : Nat) : Reviewer (σ × List Call) where
  name := r.name
  ask source m world :=
    ((r.ask source m world.1).1, (r.ask source m world.1).2, world.2 ++ [⟨place, source, m⟩])

theorem Reviewer.name_traced (r : Reviewer σ) (place : Nat) : (r.traced place).name = r.name := rfl

theorem Reviewer.ask_traced (r : Reviewer σ) (place : Nat) (source : String) (m : Metrics)
    (world : σ × List Call) :
    (r.traced place).ask source m world =
      ((r.ask source m world.1).1, (r.ask source m world.1).2, world.2 ++ [⟨place, source, m⟩]) := rfl

theorem Answer.review_eq_ok_iff (a : Answer) (review : Review) :
    a.review = .ok review ↔ ∃ payload, a.reply = .ok payload ∧ Review.ofJson payload = .ok review := by
  unfold Answer.review
  cases a.reply with
  | error reason => simp
  | ok payload => cases h : Review.ofJson payload <;> simp [h]

namespace Panel

def traced (panel : Panel σ) : Panel (σ × List Call) where
  reviewers := panel.reviewers.zipIdx.map fun r => r.1.traced r.2
  allowFallback := panel.allowFallback
  maxChars := panel.maxChars

/-! ### The two places -/

def answers (source : String) (m : Metrics) : List (Reviewer σ) → σ → List Answer
  | [], _ => []
  | r :: rest, world => (r.ask source m world).1 :: answers source m rest (r.ask source m world).2

def worldAfter (source : String) (m : Metrics) (reviewers : List (Reviewer σ)) (world : σ) : σ :=
  reviewers.foldl (fun world r => (r.ask source m world).2) world

def cancelledBefore (cancelled : Bool) (given : List Answer) (place : Nat) : Bool :=
  cancelled || (given.take place).any Answer.cancels

def cancelPlace (cancelled : Bool) (given : List Answer) : Nat :=
  (List.range given.length).findIdx (cancelledBefore cancelled given)

def validPlace (given : List Answer) : Nat := given.findIdx fun a => a.review.isOk

def failures (reviewers : List (Reviewer σ)) (given : List Answer) : List String :=
  List.zipWith (fun r a => failureText r.name a.reason) reviewers given

theorem length_answers (source : String) (m : Metrics) (reviewers : List (Reviewer σ)) (world : σ) :
    (answers source m reviewers world).length = reviewers.length := by
  induction reviewers generalizing world with
  | nil => rfl
  | cons r rest ih => simp [answers, ih]

theorem cancelPlace_le (cancelled : Bool) (given : List Answer) :
    cancelPlace cancelled given ≤ given.length := by
  have bound : cancelPlace cancelled given ≤ (List.range given.length).length :=
    List.findIdx_le_length
  rwa [List.length_range] at bound

theorem cancelPlace_nil (cancelled : Bool) : cancelPlace cancelled [] = 0 := rfl

theorem cancelPlace_true (given : List Answer) : cancelPlace true given = 0 := by
  cases given with
  | nil => rfl
  | cons a rest =>
    simp [cancelPlace, List.range_succ_eq_map, List.findIdx_cons, cancelledBefore]

theorem cancelPlace_cons (a : Answer) (rest : List Answer) :
    cancelPlace false (a :: rest) = cancelPlace a.cancels rest + 1 := by
  have shifted : cancelledBefore false (a :: rest) ∘ Nat.succ = cancelledBefore a.cancels rest := by
    funext place
    simp [cancelledBefore]
  have first : cancelledBefore false (a :: rest) 0 = false := by simp [cancelledBefore]
  rw [cancelPlace, List.length_cons, List.range_succ_eq_map, List.findIdx_cons, first, cond_false,
    List.findIdx_map, shifted, cancelPlace]

theorem validPlace_cons (a : Answer) (rest : List Answer) :
    validPlace (a :: rest) = if a.review.isOk then 0 else validPlace rest + 1 := by
  simp only [validPlace, List.findIdx_cons]
  cases a.review.isOk <;> rfl

theorem validPlace_cons_ok {a : Answer} {review : Review} (rest : List Answer)
    (valid : a.review = .ok review) : validPlace (a :: rest) = 0 := by
  rw [validPlace_cons, valid]
  rfl

theorem validPlace_cons_error {a : Answer} {reason : String} (rest : List Answer)
    (invalid : a.review = .error reason) : validPlace (a :: rest) = validPlace rest + 1 := by
  rw [validPlace_cons, invalid]
  rfl

/-! ### Asking around -/

theorem answers_of_asked {source : String} {m : Metrics} {r : Reviewer σ} {world after : σ}
    {answer : Answer} (asked : r.ask source m world = (answer, after)) (rest : List (Reviewer σ)) :
    answers source m (r :: rest) world = answer :: answers source m rest after := by
  rw [answers, asked]

theorem worldAfter_of_asked {source : String} {m : Metrics} {r : Reviewer σ} {world after : σ}
    {answer : Answer} (asked : r.ask source m world = (answer, after)) (rest : List (Reviewer σ)) :
    worldAfter source m (r :: rest) world = worldAfter source m rest after := by
  rw [worldAfter, List.foldl_cons, asked, worldAfter]

theorem consult_accepted (source : String) (m : Metrics) (reviewers : List (Reviewer σ))
    (cancelled : Bool) (world : σ) :
    let given := answers source m reviewers world
    (validPlace given < cancelPlace cancelled given →
      ∃ r a review, reviewers[validPlace given]? = some r ∧ given[validPlace given]? = some a ∧
        a.review = .ok review ∧
        (consult source m reviewers cancelled world).1.accepted = some (r.name, review)) ∧
    (cancelPlace cancelled given ≤ validPlace given →
      (consult source m reviewers cancelled world).1.accepted = none) := by
  fun_induction consult source m reviewers cancelled world with
  | case1 => simp [answers, cancelPlace_nil]
  | case2 r rest world => simp [cancelPlace_true]
  | case3 r rest world answer after asked review valid =>
    simp only [answers_of_asked asked, validPlace_cons_ok _ valid, cancelPlace_cons]
    refine ⟨fun _ => ⟨r, answer, review, rfl, rfl, valid, rfl⟩, fun late => ?_⟩
    omega
  | case4 r rest world answer after asked reason invalid later world' next ih =>
    simp only [answers_of_asked asked, validPlace_cons_error _ invalid, cancelPlace_cons,
      Nat.add_lt_add_iff_right, Nat.add_le_add_iff_right, List.getElem?_cons_succ]
    simpa only [next] using ih

/-- Each reviewer before both places has failed; whether the turn of a further one found the review
cancelled is seen from the places alone. -/
theorem consult_errors (source : String) (m : Metrics) (reviewers : List (Reviewer σ))
    (cancelled : Bool) (world : σ) :
    let given := answers source m reviewers world
    (consult source m reviewers cancelled world).1.errors =
      (failures reviewers given).take (min (cancelPlace cancelled given) (validPlace given)) ++
        if cancelPlace cancelled given ≤ validPlace given ∧
            cancelPlace cancelled given < reviewers.length then [cancelledError] else [] := by
  fun_induction consult source m reviewers cancelled world with
  | case1 => simp [answers, cancelPlace_nil]
  | case2 r rest world => simp [cancelPlace_true]
  | case3 r rest world answer after asked review valid =>
    simp [answers_of_asked asked, validPlace_cons_ok _ valid, cancelPlace_cons]
  | case4 r rest world answer after asked reason invalid later world' next ih =>
    have text : failureText r.name answer.reason = failureText r.name reason := by
      rw [Answer.reason, invalid]
    simp only [next] at ih
    simp only [answers_of_asked asked, validPlace_cons_error _ invalid, cancelPlace_cons, failures,
      List.zipWith_cons_cons, Nat.add_min_add_right, List.take_succ_cons, text, List.cons_append,
      Nat.add_le_add_iff_right, List.length_cons, Nat.add_lt_add_iff_right]
    rw [ih, failures]

/-- A reviewer is asked when the review is not cancelled before and none earlier gave a valid one. -/
theorem consult_world (source : String) (m : Metrics) (reviewers : List (Reviewer σ))
    (cancelled : Bool) (world : σ) :
    let given := answers source m reviewers world
    (consult source m reviewers cancelled world).2 =
      worldAfter source m
        (reviewers.take (min (cancelPlace cancelled given) (validPlace given + 1))) world := by
  fun_induction consult source m reviewers cancelled world with
  | case1 => simp [worldAfter]
  | case2 r rest world => simp [cancelPlace_true, worldAfter]
  | case3 r rest world answer after asked review valid =>
    simp only [answers_of_asked asked, validPlace_cons_ok _ valid, cancelPlace_cons,
      Nat.add_min_add_right, Nat.min_zero, List.take_succ_cons, worldAfter_of_asked asked]
    rfl
  | case4 r rest world answer after asked reason invalid later world' next ih =>
    simp only [next] at ih
    simp only [answers_of_asked asked, validPlace_cons_error _ invalid, cancelPlace_cons,
      Nat.add_min_add_right, List.take_succ_cons, worldAfter_of_asked asked]
    exact ih

/-- Noting the calls changes nothing else, and the calls are those of the places up to the first one
that settles the review. -/
theorem consult_traced (source : String) (m : Metrics) (reviewers : List (Reviewer σ))
    (cancelled : Bool) (world : σ) (start : Nat) (calls : List Call) :
    let given := answers source m reviewers world
    consult source m ((reviewers.zipIdx start).map fun r => r.1.traced r.2) cancelled
        (world, calls) =
      ((consult source m reviewers cancelled world).1,
        (consult source m reviewers cancelled world).2,
        calls ++ (List.range' start (min (cancelPlace cancelled given) (validPlace given + 1))).map
          fun place => ⟨place, source, m⟩) := by
  fun_induction consult source m reviewers cancelled world generalizing start calls with
  | case1 => simp [consult, answers, cancelPlace_nil]
  | case2 r rest world => simp [consult, cancelPlace_true]
  | case3 r rest world answer after asked review valid =>
    simp [consult, Reviewer.ask_traced, Reviewer.name_traced, asked, valid, answers_of_asked asked, validPlace_cons_ok _ valid,
      cancelPlace_cons]
  | case4 r rest world answer after asked reason invalid later world' next ih =>
    have tail := ih (start + 1) (calls ++ [⟨start, source, m⟩])
    simp only [next] at tail
    simp [consult, Reviewer.ask_traced, Reviewer.name_traced, asked, invalid,
      answers_of_asked asked, validPlace_cons_error _ invalid, cancelPlace_cons, tail,
      Nat.add_min_add_right, List.range'_succ]

/-! ### The verdict -/

theorem outcome_conclude_of_accepted (panel : Panel σ) (m : Metrics) {c : Consultation}
    {name : String} {review : Review} (accepted : c.accepted = some (name, review)) :
    (panel.conclude m c).outcome = .ok ⟨review, name, c.errors⟩ := by
  rw [conclude, accepted]

theorem outcome_conclude_of_none (panel : Panel σ) (m : Metrics) {c : Consultation}
    (none : c.accepted = none) :
    (panel.conclude m c).outcome =
      if panel.allowFallback then
        (Outcome.ofArithmetic (Review.ofMetrics m)).map (⟨·, fallbackSource, c.errors⟩)
      else .error (.reviewersExhausted c.errors) := by
  rw [conclude, none]
  dsimp only
  split
  · cases Review.ofMetrics m <;> rfl
  · rfl

theorem exists_conclude {panel : Panel σ} (fallback : panel.allowFallback = true) {m : Metrics}
    {suggested : Review} (h : Review.ofMetrics m = .ok suggested) (c : Consultation) :
    ∃ verdict, (panel.conclude m c).outcome = .ok verdict := by
  cases accepted : c.accepted with
  | some given => exact ⟨_, panel.outcome_conclude_of_accepted m accepted⟩
  | none =>
    rw [panel.outcome_conclude_of_none m accepted, if_pos fallback, h]
    exact ⟨_, rfl⟩

theorem conclude_traced (panel : Panel σ) (m : Metrics) (c : Consultation) :
    panel.traced.conclude m c = panel.conclude m c := by
  have nobody : panel.traced.reviewers.isEmpty = panel.reviewers.isEmpty := by
    cases h : panel.reviewers <;> simp [traced, h]
  rw [conclude, conclude, nobody]
  rfl

theorem synthesize_fst (panel : Panel σ) (content : Option String) (m : Metrics) (cancelled : Bool)
    (world : σ) :
    (panel.synthesize content m cancelled world).1 =
      panel.conclude m
        (consult (truncate content panel.maxChars) m panel.reviewers cancelled world).1 := rfl

theorem synthesize_snd (panel : Panel σ) (content : Option String) (m : Metrics) (cancelled : Bool)
    (world : σ) :
    (panel.synthesize content m cancelled world).2 =
      (consult (truncate content panel.maxChars) m panel.reviewers cancelled world).2 := rfl

/-- The calls of a panel are those of its reviewers up to the first place that settles the review. -/
theorem synthesize_traced (panel : Panel σ) (content : Option String) (m : Metrics)
    (cancelled : Bool) (world : σ) (calls : List Call) :
    let source := truncate content panel.maxChars
    let given := answers source m panel.reviewers world
    let asked := min (cancelPlace cancelled given) (validPlace given + 1)
    panel.traced.synthesize content m cancelled (world, calls) =
      ((panel.synthesize content m cancelled world).1,
        worldAfter source m (panel.reviewers.take asked) world,
        calls ++ (List.range asked).map fun place => ⟨place, source, m⟩) := by
  intro source given asked
  have noted := consult_traced source m panel.reviewers cancelled world 0 calls
  have final := consult_world source m panel.reviewers cancelled world
  apply Prod.ext
  · rw [synthesize_fst, conclude_traced, synthesize_fst]
    exact congrArg (fun c => panel.conclude m c.1) noted
  · rw [synthesize_snd]
    refine (congrArg Prod.snd noted).trans ?_
    rw [final, List.range_eq_range']

/-- The first valid review that is given before the review is found cancelled is the verdict, and
nobody behind is asked. Without one it is the review that the figures suggest, or, where the panel
insists on a reviewer, a failure with all that went wrong. -/
theorem synthesize_first_valid (panel : Panel σ) (content : Option String) (m : Metrics)
    (cancelled : Bool) (world : σ) :
    let source := truncate content panel.maxChars
    let given := answers source m panel.reviewers world
    let i := cancelPlace cancelled given
    let j := validPlace given
    let asked := if j < i then j + 1 else i
    let failed := (failures panel.reviewers given).take (min i j)
    let outcome := (panel.synthesize content m cancelled world).1.outcome
    panel.traced.synthesize content m cancelled (world, []) =
        ((panel.synthesize content m cancelled world).1,
          worldAfter source m (panel.reviewers.take asked) world,
          (List.range asked).map fun place => ⟨place, source, m⟩) ∧
      failed.length = min i j ∧
      (j < i → ∃ r a payload review, panel.reviewers[j]? = some r ∧ given[j]? = some a ∧
        a.reply = .ok payload ∧ Review.ofJson payload = .ok review ∧
        outcome = .ok ⟨review, r.name, failed⟩) ∧
      (i ≤ j →
        let errors := failed ++ if i < panel.reviewers.length then [cancelledError] else []
        outcome =
          if panel.allowFallback then
            (Outcome.ofArithmetic (Review.ofMetrics m)).map (⟨·, fallbackSource, errors⟩)
          else .error (.reviewersExhausted errors)) := by
  intro source given i j asked failed outcome
  have sameLength : given.length = panel.reviewers.length := length_answers _ _ _ _
  have bound : i ≤ given.length := cancelPlace_le cancelled given
  have calls : asked = min i (j + 1) := by
    dsimp only [asked]
    split <;> omega
  have errors : (consult source m panel.reviewers cancelled world).1.errors =
      failed ++ if i ≤ j ∧ i < panel.reviewers.length then [cancelledError] else [] :=
    consult_errors source m panel.reviewers cancelled world
  obtain ⟨early, late⟩ := consult_accepted source m panel.reviewers cancelled world
  refine ⟨?_, ?_, fun before => ?_, fun notBefore => ?_⟩
  · rw [calls]
    exact synthesize_traced panel content m cancelled world []
  · simp only [failed, failures, List.length_take, List.length_zipWith, sameLength]
    omega
  · obtain ⟨r, a, review, reviewer, answer, valid, accepted⟩ := early before
    obtain ⟨payload, reply, read⟩ := (a.review_eq_ok_iff review).mp valid
    refine ⟨r, a, payload, review, reviewer, answer, reply, read, ?_⟩
    have undisturbed : ¬ (i ≤ j ∧ i < panel.reviewers.length) := by omega
    rw [if_neg undisturbed, List.append_nil] at errors
    exact (outcome_conclude_of_accepted panel m accepted).trans (by rw [errors])
  · simp only [notBefore, true_and] at errors
    have shown := outcome_conclude_of_none panel m (late notBefore)
    rw [errors] at shown
    exact shown

end Panel
end Footprint
