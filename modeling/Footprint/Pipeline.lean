import Footprint.Batch
import Footprint.Gate
import Footprint.Panel

/-! Requests: one file or several are measured, their figures combined and reviewed. A request over
several files goes on in steps, between which other requests may begin; it is dropped when one for the
same key has. -/
namespace Footprint

structure AnalysisResult where
  metrics : Metrics
  review : Review
  environment : Environment
  branch : Branch
  fileNames : List String
  reviewSource : String
  deriving DecidableEq

structure Pipeline (σ : Type) where
  meter : Meter := {}
  panel : Panel σ := {}
  /-- The most files that are measured at a time. -/
  workers : Int := 4

/-- What one request asks for, with the hour on the clock at its time. -/
structure Request where
  conditions : Conditions := {}
  clock : Int
  /-- Whether the review was cancelled beforehand. -/
  cancelled : Bool := false

structure BatchRequest extends Request where
  units : List SourceUnit
  key : Key := .none
  /-- Which of the files at work is done next, time and again. -/
  choices : List Nat := []

structure Shared (σ : Type) where
  gate : Gate := .empty
  /-- The world of the reviewers. -/
  world : σ

inductive Progress where
  | received
  | begun (generation : Nat)
  | measured (generation : Nat) (measurements : List Measurement)
  | confirmed (generation : Nat) (measurements : List Measurement)
  | combined (generation : Nat) (measurements : List Measurement) (metrics : Metrics)
  | reviewed (generation : Nat) (result : AnalysisResult)
  /-- Without a result when it was dropped. -/
  | finished (result : Option AnalysisResult)
  | failed (cause : Failure)

def Progress.outcome? : Progress → Option (Outcome (Option AnalysisResult))
  | .finished result => some (.ok result)
  | .failed cause => some (.error cause)
  | _ => none

def Progress.stepsLeft : Progress → Nat
  | .received => 6
  | .begun .. => 5
  | .measured .. => 4
  | .confirmed .. => 3
  | .combined .. => 2
  | .reviewed .. => 1
  | .finished .. => 0
  | .failed .. => 0

theorem Progress.isSome_outcome? (progress : Progress) :
    progress.outcome?.isSome = true ↔ progress.stepsLeft = 0 := by
  cases progress <;> simp [Progress.outcome?, Progress.stepsLeft]

/-- The branch of a result over several files: the most thorough one. -/
def combinedBranch (branches : List Branch) : Branch :=
  if branches.contains .syntaxTree then .syntaxTree
  else if branches.contains .keywords then .keywords
  else .sizeOnly

/-- The contents that reviewers see together: those that are not empty, a line feed between two. -/
def combinedContent (units : List SourceUnit) : String :=
  "\n".intercalate ((units.filterMap SourceUnit.content).filter (!·.isEmpty))

def BatchRequest.label (r : BatchRequest) : String := s!"{r.units.length} files"

namespace Pipeline

variable {σ : Type}

def review (p : Pipeline σ) (r : Request) (label : String) (content : Option String)
    (measurements : List Measurement) (m : Metrics) (world : σ) : Recorded AnalysisResult × σ :=
  let (verdict, world) := p.panel.synthesize content m r.cancelled world
  let result : Recorded AnalysisResult := do
    Recorded.record [.requestStage label .reviewing]
    let verdict ← verdict
    Recorded.record [.requestStage label .complete]
    return {
      metrics := m
      review := verdict.review
      environment := ← p.meter.environments.resolve r.conditions
      branch := combinedBranch (measurements.map Measurement.branch)
      fileNames := measurements.map Measurement.fileName
      reviewSource := verdict.source }
  (result, world)

def run (p : Pipeline σ) (r : Request) (u : SourceUnit) (world : σ) : Recorded AnalysisResult × σ :=
  let measured : Recorded Measurement := do
    Recorded.record [.requestStage u.label .parsing]
    (p.meter.deeper 1).measure r.clock r.conditions u
  match measured.outcome with
  | .error cause => (⟨measured.events, .error cause⟩, world)
  | .ok measurement =>
    let (result, world) := p.review r u.label u.content [measurement] measurement.metrics world
    (⟨measured.events ++ result.events, result.outcome⟩, world)

/-- The next step of a request over several files, and what it records. -/
def advance (p : Pipeline σ) (r : BatchRequest) (shared : Shared σ) :
    Progress → Progress × Shared σ × List Event
  | .received =>
    if r.units.isEmpty then (.failed .noFiles, shared, [])
    else
      let (generation, gate) := shared.gate.begin r.key
      (.begun generation, { shared with gate }, [.requestStage r.label .parsing])
  | .begun generation =>
    let measured :=
      Batch.measureMany p.meter r.clock r.conditions r.units p.workers r.choices
    match measured.outcome with
    | .error cause => (.failed cause, shared, measured.events)
    | .ok measurements => (.measured generation measurements, shared, measured.events)
  | .measured generation measurements =>
    match shared.gate.accept r.key generation with
    | (true, events) => (.confirmed generation measurements, shared, events)
    | (false, events) => (.finished none, shared, events)
  | .confirmed generation measurements =>
    let events := [.requestStage r.label .calculating]
    match Metrics.aggregate (measurements.map Measurement.metrics) with
    | .error cause => (.failed cause, shared, events)
    | .ok m => (.combined generation measurements m, shared, events)
  | .combined generation measurements m =>
    let (result, world) :=
      p.review r.toRequest r.label (some (combinedContent r.units)) measurements m shared.world
    let shared := { shared with world }
    match result.outcome with
    | .error cause => (.failed cause, shared, result.events)
    | .ok result' => (.reviewed generation result', shared, result.events)
  | .reviewed generation result =>
    match shared.gate.accept r.key generation with
    | (true, events) => (.finished (some result), shared, events)
    | (false, events) => (.finished none, shared, events)
  | .finished result => (.finished result, shared, [])
  | .failed cause => (.failed cause, shared, [])

theorem stepsLeft_advance (p : Pipeline σ) (r : BatchRequest) (shared : Shared σ)
    (progress : Progress) : (p.advance r shared progress).1.stepsLeft ≤ progress.stepsLeft - 1 := by
  cases progress <;> unfold advance <;> dsimp only <;> (try split) <;> simp [Progress.stepsLeft]

def advances (p : Pipeline σ) (r : BatchRequest) :
    Nat → Progress × Shared σ × List Event → Progress × Shared σ × List Event
  | 0, state => state
  | steps + 1, (progress, shared, events) =>
    let (progress, shared, more) := p.advance r shared progress
    advances p r steps (progress, shared, events ++ more)

theorem stepsLeft_advances (p : Pipeline σ) (r : BatchRequest) (steps : Nat)
    (state : Progress × Shared σ × List Event) :
    (p.advances r steps state).1.stepsLeft ≤ state.1.stepsLeft - steps := by
  induction steps generalizing state with
  | zero => exact Nat.le_refl _
  | succ steps ih =>
    obtain ⟨progress, shared, events⟩ := state
    have first := p.stepsLeft_advance r shared progress
    have rest := ih ((p.advance r shared progress).1, (p.advance r shared progress).2.1,
      events ++ (p.advance r shared progress).2.2)
    exact Nat.le_trans rest (by dsimp only; omega)

def stepCount : Nat := 6

/-- The result for several files, none when the request was dropped. -/
def runMany (p : Pipeline σ) (r : BatchRequest) (shared : Shared σ) :
    Recorded (Option AnalysisResult) × Shared σ :=
  let (progress, shared, events) := p.advances r stepCount (.received, shared, [])
  (⟨events, progress.outcome?.getD (.ok none)⟩, shared)

/-- A request never runs out of steps. -/
theorem outcome_advances_received (p : Pipeline σ) (r : BatchRequest) (shared : Shared σ) :
    (p.advances r stepCount (.received, shared, [])).1.outcome?.isSome = true :=
  (Progress.isSome_outcome? _).mpr
    (Nat.le_zero.mp (p.stepsLeft_advances r stepCount (.received, shared, [])))

end Pipeline
end Footprint
