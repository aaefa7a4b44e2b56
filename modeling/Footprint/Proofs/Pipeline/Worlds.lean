import Footprint.Pipeline
import Mathlib.Data.List.Forall2

/-! Requests reach the world of the reviewers through their answers alone. Of two pipelines that differ
in their reviewers only, both come to the same results as long as the reviewers give the same answers
about the content at hand, and whatever relates the two worlds while they do stays true. -/
namespace Footprint

variable {α σ τ : Type} {R : σ → τ → Prop}

structure Agree (R : σ → τ → Prop) (x : α × σ) (y : α × τ) : Prop where
  fst : x.1 = y.1
  snd : R x.2 y.2

structure Reviewer.AgreeOn (R : σ → τ → Prop) (source : String) (a : Reviewer σ) (b : Reviewer τ) :
    Prop where
  name : a.name = b.name
  ask : ∀ (m : Metrics) {w : σ} {v : τ}, R w v → Agree R (a.ask source m w) (b.ask source m v)

namespace Panel

structure AgreeOn (R : σ → τ → Prop) (content : Option String) (p : Panel σ) (q : Panel τ) : Prop where
  allowFallback : p.allowFallback = q.allowFallback
  maxChars : p.maxChars = q.maxChars
  reviewers : List.Forall₂ (Reviewer.AgreeOn R (truncate content q.maxChars)) p.reviewers q.reviewers

theorem consult_agree {source : String} {as : List (Reviewer σ)} {bs : List (Reviewer τ)}
    (same : List.Forall₂ (Reviewer.AgreeOn R source) as bs) (m : Metrics) (cancelled : Bool) {w : σ}
    {v : τ} (related : R w v) :
    Agree R (consult source m as cancelled w) (consult source m bs cancelled v) := by
  induction same generalizing cancelled w v with
  | nil => exact ⟨rfl, related⟩
  | @cons a b as bs first rest ih =>
    cases cancelled with
    | true => exact ⟨rfl, related⟩
    | false =>
      -- Both go on, or stop, by the same answer.
      obtain ⟨answer, after⟩ := first.ask m related
      unfold consult
      dsimp only
      rw [answer, first.name]
      cases (b.ask source m v).1.review with
      | ok review => exact ⟨rfl, after⟩
      | error reason =>
        obtain ⟨later, final⟩ := ih (b.ask source m v).1.cancels after
        dsimp only
        exact ⟨by rw [later], final⟩

theorem AgreeOn.synthesize {content : Option String} {p : Panel σ} {q : Panel τ}
    (same : AgreeOn R content p q) (m : Metrics) (cancelled : Bool) {w : σ} {v : τ}
    (related : R w v) :
    Agree R (p.synthesize content m cancelled w) (q.synthesize content m cancelled v) := by
  obtain ⟨consulted, after⟩ := consult_agree same.reviewers m cancelled related
  have empty : p.reviewers.isEmpty = q.reviewers.isEmpty := by
    rw [Bool.eq_iff_iff, List.isEmpty_iff_length_eq_zero, List.isEmpty_iff_length_eq_zero,
      same.reviewers.length_eq]
  unfold Panel.synthesize
  rw [same.maxChars]
  refine ⟨?_, after⟩
  dsimp only
  rw [consulted, conclude, conclude, empty, same.allowFallback]

end Panel

namespace Pipeline

structure AgreeOn (R : σ → τ → Prop) (content : Option String) (p : Pipeline σ) (q : Pipeline τ) :
    Prop where
  meter : p.meter = q.meter
  workers : p.workers = q.workers
  panel : p.panel.AgreeOn R content q.panel

variable {content : Option String} {p : Pipeline σ} {q : Pipeline τ}

theorem AgreeOn.review (same : AgreeOn R content p q) (r : Request) (label : String)
    (measurements : List Measurement) (m : Metrics) {w : σ} {v : τ} (related : R w v) :
    Agree R (p.review r label content measurements m w) (q.review r label content measurements m v) := by
  obtain ⟨verdict, after⟩ := same.panel.synthesize m r.cancelled related
  refine ⟨?_, after⟩
  unfold Pipeline.review
  dsimp only
  rw [verdict, same.meter]

theorem AgreeOn.run {u : SourceUnit} (same : AgreeOn R u.content p q) (r : Request) {w : σ} {v : τ}
    (related : R w v) : Agree R (p.run r u w) (q.run r u v) := by
  unfold Pipeline.run
  rw [same.meter]
  dsimp only
  split
  · exact ⟨rfl, related⟩
  · next measurement _ =>
    obtain ⟨result, after⟩ := same.review r u.label [measurement] measurement.metrics related
    exact ⟨by rw [result], after⟩

def SharedRelated (R : σ → τ → Prop) (shared : Shared σ) (shared' : Shared τ) : Prop :=
  shared.gate = shared'.gate ∧ R shared.world shared'.world

def StatesRelated (R : σ → τ → Prop) (s : Progress × Shared σ × List Event)
    (t : Progress × Shared τ × List Event) : Prop :=
  s.1 = t.1 ∧ SharedRelated R s.2.1 t.2.1 ∧ s.2.2 = t.2.2

variable {r : BatchRequest}

theorem AgreeOn.advance (same : AgreeOn R (some (combinedContent r.units)) p q) (progress : Progress)
    {shared : Shared σ} {shared' : Shared τ} (related : SharedRelated R shared shared') :
    StatesRelated R (p.advance r shared progress) (q.advance r shared' progress) := by
  obtain ⟨gate, world⟩ := related
  cases progress with
  | received =>
    unfold Pipeline.advance
    dsimp only
    split
    · exact ⟨rfl, ⟨gate, world⟩, rfl⟩
    · rw [gate]
      exact ⟨rfl, ⟨rfl, world⟩, rfl⟩
  | begun generation =>
    unfold Pipeline.advance
    dsimp only
    rw [same.meter, same.workers]
    split <;> exact ⟨rfl, ⟨gate, world⟩, rfl⟩
  | measured generation measurements | reviewed generation result =>
    unfold Pipeline.advance
    dsimp only
    rw [gate]
    split <;> exact ⟨rfl, ⟨gate, world⟩, rfl⟩
  | confirmed generation measurements =>
    unfold Pipeline.advance
    dsimp only
    split <;> exact ⟨rfl, ⟨gate, world⟩, rfl⟩
  | combined generation measurements m =>
    obtain ⟨result, after⟩ := same.review r.toRequest r.label measurements m world
    unfold Pipeline.advance
    dsimp only
    rw [result]
    split <;> exact ⟨rfl, ⟨gate, after⟩, rfl⟩
  | finished | failed => exact ⟨rfl, ⟨gate, world⟩, rfl⟩

theorem AgreeOn.advances (same : AgreeOn R (some (combinedContent r.units)) p q) (steps : Nat)
    {s : Progress × Shared σ × List Event} {t : Progress × Shared τ × List Event}
    (related : StatesRelated R s t) : StatesRelated R (p.advances r steps s) (q.advances r steps t) := by
  induction steps generalizing s t with
  | zero => exact related
  | succ steps ih =>
    obtain ⟨progress, shared, events⟩ := s
    obtain ⟨_, shared', _⟩ := t
    obtain ⟨rfl, between, rfl⟩ := related
    obtain ⟨next, after, more⟩ := same.advance progress between
    exact ih ⟨next, after, congrArg (events ++ ·) more⟩

theorem AgreeOn.runMany (same : AgreeOn R (some (combinedContent r.units)) p q) {shared : Shared σ}
    {shared' : Shared τ} (related : SharedRelated R shared shared') :
    Agree (SharedRelated R) (p.runMany r shared) (q.runMany r shared') := by
  obtain ⟨progress, after, events⟩ := same.advances stepCount (s := (.received, shared, []))
    (t := (.received, shared', [])) ⟨rfl, related, rfl⟩
  refine ⟨?_, after⟩
  unfold Pipeline.runMany
  dsimp only
  rw [progress, events]

end Pipeline
end Footprint
