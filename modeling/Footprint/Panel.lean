import Footprint.Recorded
import Footprint.Review

/-! The panel that reviews: reviewers are asked one after another until one gives a valid review. When
none does, the review is drawn from the figures, unless the panel insists on a reviewer. -/
namespace Footprint

/-- What comes of asking a reviewer: a value, or the reason why there is none. Meanwhile the review may
have been cancelled. -/
structure Answer where
  reply : Except String Json
  cancels : Bool := false

/-- A reviewer is asked about a text and its figures; `σ` is the world that its answers come from. -/
structure Reviewer (σ : Type) where
  name : String
  ask : String → Metrics → σ → Answer × σ

def characterLimit : Int := 10000

def Answer.review (a : Answer) : Except String Review :=
  match a.reply with
  | .error reason => .error reason
  | .ok payload =>
    match Review.ofJson payload with
    | .ok review => .ok review
    | .error cause => .error cause.message

structure Panel (σ : Type) where
  reviewers : List (Reviewer σ) := []
  allowFallback : Bool := true
  maxChars : Int := characterLimit

structure Verdict where
  review : Review
  source : String
  errors : List String
  deriving DecidableEq

def fallbackSource : String := "fallback"

def Verdict.isFallback (v : Verdict) : Bool := v.source == fallbackSource

structure Consultation where
  accepted : Option (String × Review) := none
  errors : List String := []
  events : List Event := []

namespace Panel

variable {σ : Type}

def truncate (content : Option String) (maxChars : Int) : String :=
  String.ofList ((content.getD "").toList.take (max 0 (min maxChars characterLimit)).toNat)

def cancelledError : String := "review cancelled"

def failureText (name reason : String) : String := name ++ ": " ++ reason

/-- Asks reviewers in order until one gives a valid review, or the review is cancelled. -/
def consult (source : String) (m : Metrics) :
    List (Reviewer σ) → (cancelled : Bool) → σ → Consultation × σ
  | [], _, world => ({}, world)
  | _ :: _, true, world => ({ errors := [cancelledError] }, world)
  | reviewer :: rest, false, world =>
    let (answer, world) := reviewer.ask source m world
    match answer.review with
    | .ok review => ({ accepted := some (reviewer.name, review) }, world)
    | .error reason =>
      let (later, world) := consult source m rest answer.cancels world
      ({ accepted := later.accepted
         errors := failureText reviewer.name reason :: later.errors
         events := .reviewerFailed reviewer.name reason :: later.events }, world)

/-- What a panel makes of a consultation: the review that was accepted, or the one that the figures
suggest. -/
def conclude (panel : Panel σ) (m : Metrics) (c : Consultation) : Recorded Verdict :=
  match c.accepted with
  | some (name, review) => ⟨c.events, .ok ⟨review, name, c.errors⟩⟩
  | none =>
    if panel.allowFallback then
      ⟨c.events ++ (if panel.reviewers.isEmpty then [] else [.fallbackTaken]),
        return ⟨← Review.ofMetrics m, fallbackSource, c.errors⟩⟩
    else ⟨c.events, .error (.reviewersExhausted c.errors)⟩

def synthesize (panel : Panel σ) (content : Option String) (m : Metrics) (cancelled : Bool)
    (world : σ) : Recorded Verdict × σ :=
  let (c, world) :=
    consult (truncate content panel.maxChars) m panel.reviewers cancelled world
  (panel.conclude m c, world)

end Panel
end Footprint
