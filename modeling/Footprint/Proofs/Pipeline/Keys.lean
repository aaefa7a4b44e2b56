import Footprint.Proofs.Pipeline.Schedule
import Footprint.Proofs.Pipeline.Steps

/-! Requests of one key against everything that happens under other keys. A schedule is compared with the
part of it that is about the one key: the gate shows the same generations of that key in both, so both
checks of a request turn out alike. What reviewers say may still depend on whom they have met before. -/
namespace Footprint

variable {σ ι : Type}

def Action.key (requests : ι → BatchRequest) : Action ι → Key
  | .advance i => (requests i).key
  | .begin key => key

def Panel.IgnoresWorld (panel : Panel σ) : Prop :=
  ∀ r ∈ panel.reviewers, ∀ source m world world', (r.ask source m world).1 = (r.ask source m world').1

inductive Progress.Agree : Progress → Progress → Prop
  | same (x : Progress) : Agree x x
  | reviewed (generation : Nat) (x y : AnalysisResult) :
    Agree (.reviewed generation x) (.reviewed generation y)
  | finished {x y : Option AnalysisResult} :
    x.isSome = y.isSome → Agree (.finished x) (.finished y)
  | left (cause : Failure) {y : Progress} : y ≠ .received → Agree (.failed cause) y
  | right (cause : Failure) {x : Progress} : x ≠ .received → Agree x (.failed cause)

theorem Progress.begins?_of_ne (r : BatchRequest) {progress : Progress} (h : progress ≠ .received) :
    progress.begins? r = none := by
  cases progress with
  | received => exact (h rfl).elim
  | _ => rfl

theorem Progress.Agree.begins? {x y : Progress} (h : x.Agree y) (r : BatchRequest) :
    x.begins? r = y.begins? r := by
  cases h with
  | same => rfl
  | reviewed => rfl
  | finished => rfl
  | left cause notReceived => exact (Progress.begins?_of_ne r notReceived).symm
  | right cause notReceived => exact Progress.begins?_of_ne r notReceived

namespace Pipeline

variable {p : Pipeline σ} {r : BatchRequest} {shared shared' : Shared σ}

theorem advance_ne_received {progress : Progress} (h : progress ≠ .received) :
    (p.advance r shared progress).1 ≠ .received := by
  have fewer := p.stepsLeft_advance r shared progress
  have less : progress.stepsLeft ≤ 5 := by
    cases progress with
    | received => exact (h rfl).elim
    | _ => simp [Progress.stepsLeft]
  intro absurd
  rw [absurd] at fewer
  change 6 ≤ _ at fewer
  omega

theorem agree_advance (newest : shared.gate.newest r.key = shared'.gate.newest r.key) {x y : Progress}
    (h : x.Agree y) : (p.advance r shared x).1.Agree (p.advance r shared' y).1 := by
  cases h with
  | same =>
    cases x with
    | received =>
      rw [advance_received, advance_received, newest]
      split <;> exact .same _
    | begun generation =>
      rw [advance, advance]
      cases (Batch.measureMany p.meter r.clock r.conditions r.units p.workers r.choices).outcome <;>
        exact .same _
    | measured generation ms =>
      rw [advance_measured, advance_measured, newest]
      split <;> exact .same _
    | confirmed generation ms =>
      rw [advance, advance]
      cases Metrics.aggregate (ms.map Measurement.metrics) <;> exact .same _
    | combined generation ms m =>
      obtain ⟨first, -, -⟩ := advance_combined p r shared generation ms m
      obtain ⟨second, -, -⟩ := advance_combined p r shared' generation ms m
      obtain ⟨cause, failed⟩ | ⟨result, reviewed⟩ := first
      · rw [failed]
        exact .left cause (advance_ne_received (by simp))
      · obtain ⟨cause, failed'⟩ | ⟨result', reviewed'⟩ := second
        · rw [failed']
          exact .right cause (advance_ne_received (by simp))
        · rw [reviewed, reviewed']
          exact .reviewed generation result result'
    | reviewed generation result =>
      rw [advance_reviewed, advance_reviewed, newest]
      split <;> exact .same _
    | finished => exact .same _
    | failed => exact .same _
  | reviewed generation result result' =>
    rw [advance_reviewed, advance_reviewed, newest]
    split
    · exact .finished rfl
    · exact .same _
  | finished agree => exact .finished agree
  | left cause notReceived => exact .left cause (advance_ne_received notReceived)
  | right cause notReceived => exact .right cause (advance_ne_received notReceived)

end Pipeline

/-! ### Reviewers that ignore the world -/

theorem Panel.consult_congr (source : String) (m : Metrics) {reviewers : List (Reviewer σ)}
    (ignore : ∀ r ∈ reviewers, ∀ source m world world',
      (r.ask source m world).1 = (r.ask source m world').1)
    (cancelled : Bool) (world world' : σ) :
    (consult source m reviewers cancelled world).1 =
      (consult source m reviewers cancelled world').1 := by
  induction reviewers generalizing cancelled world world' with
  | nil => cases cancelled <;> rfl
  | cons r rest ih =>
    cases cancelled with
    | true => rfl
    | false =>
      have answer := ignore r List.mem_cons_self source m world world'
      have later := ih (fun other h => ignore other (List.mem_cons_of_mem r h))
        (r.ask source m world').1.cancels (r.ask source m world).2 (r.ask source m world').2
      rw [consult, consult]
      dsimp only
      rw [answer]
      cases (r.ask source m world').1.review with
      | ok review => rfl
      | error reason =>
        dsimp only
        rw [later]

namespace Pipeline

variable {p : Pipeline σ} {r : BatchRequest} {shared shared' : Shared σ}

theorem review_congr (ignore : p.panel.IgnoresWorld) (r : Request) (label : String)
    (content : Option String) (ms : List Measurement) (m : Metrics) (world world' : σ) :
    (p.review r label content ms m world).1 = (p.review r label content ms m world').1 := by
  have verdict : (p.panel.synthesize content m r.cancelled world).1 =
      (p.panel.synthesize content m r.cancelled world').1 :=
    congrArg (p.panel.conclude m) (Panel.consult_congr _ m ignore r.cancelled world world')
  unfold review
  dsimp only
  rw [verdict]

theorem advance_congr (ignore : p.panel.IgnoresWorld)
    (newest : shared.gate.newest r.key = shared'.gate.newest r.key) (progress : Progress) :
    (p.advance r shared progress).1 = (p.advance r shared' progress).1 ∧
      (p.advance r shared progress).2.2 = (p.advance r shared' progress).2.2 := by
  cases progress with
  | received =>
    rw [advance_received, advance_received, newest]
    split <;> exact ⟨rfl, rfl⟩
  | begun generation =>
    rw [advance, advance]
    cases (Batch.measureMany p.meter r.clock r.conditions r.units p.workers r.choices).outcome <;>
      exact ⟨rfl, rfl⟩
  | measured generation ms =>
    rw [advance_measured, advance_measured, newest]
    split <;> exact ⟨rfl, rfl⟩
  | confirmed generation ms =>
    rw [advance, advance]
    cases Metrics.aggregate (ms.map Measurement.metrics) <;> exact ⟨rfl, rfl⟩
  | combined generation ms m =>
    have result := review_congr ignore r.toRequest r.label (some (combinedContent r.units)) ms m
      shared.world shared'.world
    rw [advance, advance]
    dsimp only
    rw [result]
    cases (p.review r.toRequest r.label (some (combinedContent r.units)) ms m
      shared'.world).1.outcome <;> exact ⟨rfl, rfl⟩
  | reviewed generation result =>
    rw [advance_reviewed, advance_reviewed, newest]
    split <;> exact ⟨rfl, rfl⟩
  | finished => exact ⟨rfl, rfl⟩
  | failed => exact ⟨rfl, rfl⟩

end Pipeline

/-! ### One key of a schedule -/

/-- A relation between two ways of a request, with their records, that every step keeps as long as the
gate shows the same newest generation. -/
structure Kept (p : Pipeline σ)
    (rel : Progress × List Event → Progress × List Event → Prop) : Prop where
  begins : ∀ {x y}, rel x y → ∀ r, x.1.begins? r = y.1.begins? r
  advance : ∀ {x y}, rel x y → ∀ (r : BatchRequest) (shared shared' : Shared σ),
    shared.gate.newest r.key = shared'.gate.newest r.key →
      rel ((p.advance r shared x.1).1, x.2 ++ (p.advance r shared x.1).2.2)
        ((p.advance r shared' y.1).1, y.2 ++ (p.advance r shared' y.1).2.2)

theorem kept_agree (p : Pipeline σ) : Kept p fun x y => x.1.Agree y.1 where
  begins h r := h.begins? r
  advance h _ _ _ newest := Pipeline.agree_advance newest h

theorem kept_eq {p : Pipeline σ} (ignore : p.panel.IgnoresWorld) : Kept p Eq where
  begins h _ := by rw [h]
  advance h r shared shared' newest := by
    subst h
    obtain ⟨progress, events⟩ := Pipeline.advance_congr ignore newest _
    rw [progress, events]

namespace System

variable [DecidableEq ι] {p : Pipeline σ} {requests : ι → BatchRequest}
  {rel : Progress × List Event → Progress × List Event → Prop} {key : Key} {s s' : System σ ι}

structure Aligned (requests : ι → BatchRequest)
    (rel : Progress × List Event → Progress × List Event → Prop) (key : Key)
    (s s' : System σ ι) : Prop where
  newest : s.shared.gate.newest key = s'.shared.gate.newest key
  related : ∀ j, (requests j).key = key → rel (s.progress j, s.events j) (s'.progress j, s'.events j)

theorem Aligned.step (kept : Kept p rel) (h : Aligned requests rel key s s') {a : Action ι}
    (own : a.key requests = key) :
    Aligned requests rel key (s.step p requests a) (s'.step p requests a) := by
  have begins : s.begins? requests a = s'.begins? requests a := by
    cases a with
    | begin => rfl
    | advance i => exact kept.begins (h.related i own) (requests i)
  refine ⟨?_, fun j same => ?_⟩
  · rw [gate_step, gate_step, Gate.newest_beginAny, Gate.newest_beginAny, begins, h.newest]
  · by_cases mine : a = .advance j
    · subst mine
      rw [progress_step_self, progress_step_self, events_step_self, events_step_self]
      refine kept.advance (h.related j same) (requests j) s.shared s'.shared ?_
      rw [same]
      exact h.newest
    · rw [progress_step_of_ne s mine, progress_step_of_ne s' mine, events_step_of_ne s mine,
        events_step_of_ne s' mine]
      exact h.related j same

theorem Aligned.step_other (h : Aligned requests rel key s s') {a : Action ι}
    (other : a.key requests ≠ key) : Aligned requests rel key (s.step p requests a) s' := by
  have notBegun : s.begins? requests a ≠ some key := by
    cases a with
    | begin => exact fun same => other (Option.some.inj same)
    | advance i =>
      intro begun
      have own := (Progress.eq_of_begins? (Option.isSome_of_eq_some begun)).2
      exact other (Option.some.inj (own.symm.trans begun))
  refine ⟨?_, fun j same => ?_⟩
  · rw [gate_step, Gate.newest_beginAny, if_neg notBegun]
    exact h.newest
  · have mine : a ≠ .advance j := by
      rintro rfl
      exact other same
    rw [progress_step_of_ne s mine, events_step_of_ne s mine]
    exact h.related j same

theorem Aligned.run (kept : Kept p rel) (h : Aligned requests rel key s s')
    (schedule : List (Action ι)) :
    Aligned requests rel key (s.run p requests schedule)
      (s'.run p requests (schedule.filter fun a => a.key requests = key)) := by
  induction schedule generalizing s s' with
  | nil => exact h
  | cons a rest ih =>
    by_cases own : a.key requests = key
    · rw [List.filter_cons_of_pos (by simpa using own)]
      exact ih (h.step kept own)
    · rw [List.filter_cons_of_neg (by simpa using own)]
      exact ih (h.step_other own)

theorem run_own_key (gate : Gate) (world : σ) (schedule : List (Action ι)) (i : ι) :
    let final := (start gate world).run p requests schedule
    let alone := (start gate world).run p requests
      (schedule.filter fun a => a.key requests = (requests i).key)
    (final.progress i).Agree (alone.progress i) ∧
      (p.panel.IgnoresWorld →
        final.progress i = alone.progress i ∧ final.events i = alone.events i) := by
  intro final alone
  constructor
  · have start : Aligned requests (fun x y => x.1.Agree y.1) (requests i).key
        (System.start gate world) (System.start gate world) := ⟨rfl, fun _ _ => .same _⟩
    exact (start.run (kept_agree p) schedule).related i rfl
  · intro ignore
    have start : Aligned requests Eq (requests i).key (System.start gate world)
        (System.start gate world) := ⟨rfl, fun _ _ => rfl⟩
    exact Prod.mk.inj ((start.run (kept_eq ignore) schedule).related i rfl)

end System
end Footprint
