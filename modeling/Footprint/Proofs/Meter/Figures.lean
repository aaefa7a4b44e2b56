import Footprint.Meter
import Footprint.Proofs.Outcome

/-! The figures of a file one by one: a measurement has a result exactly when each of its figures has
one, and the figures are those. -/
namespace Footprint

structure Conditions.SameAt (clock other : Int) (c d : Conditions) : Prop where
  region : c.region = d.region
  hardware : c.hardware = d.hardware
  hour : EnvironmentTables.hourOf clock c.hour = EnvironmentTables.hourOf other d.hour

@[simp] theorem Signals.CallStack.enter_enter (stack : CallStack) (calls more : Nat) :
    (stack.enter calls).enter more = stack.enter (calls + more) := by
  simp only [enter, Nat.add_assoc]

theorem Analysis.ofContentWith_congr {one other : Signals.CallStack}
    {parse : String → String → Option Syntax.Tree} {parsed : List String} {content language : String}
    (held : parsed.contains language = true → ∀ t ∈ parse content language,
      (one.enter 1).holds t = (other.enter 1).holds t) :
    ofContentWith one parse parsed content language = ofContentWith other parse parsed content language := by
  unfold ofContentWith
  split
  · next known =>
    cases tree : parse content language with
    | none => rfl
    | some t => simp only [ofTree, Signals.ofTree?, held known t tree]
  · rfl

namespace Meter

open Binary64

structure Figures (meter : Meter) (clock : Int) (c : Conditions) (size : Binary64) (lines : Int)
    (language : Language) (profile : Profile) (m : Metrics) : Prop where
  energy : ∃ environment thousands, meter.environments.resolve c = .ok environment ∧
    ofRatio? lines 1000 = .ok thousands ∧
    roundEnergy (meter.rawEnergy size profile language.multiplier environment thousands) = .ok m.energy
  gridIntensity : meter.environments.gridIntensity clock c = .ok m.gridIntensity
  carbon : carbonOf m.energy m.gridIntensity = .ok m.carbon
  lineCount : m.lineCount = lines
  complexity : profile.complexity.roundHalfUp (2 : Nat) = .ok m.complexity
  memPressure : profile.memPressure.roundHalfUp (2 : Nat) = .ok m.memPressure
  recursive : m.recursive = profile.recursive
  language : m.language = language.tag

variable {meter : Meter} {clock : Int} {c : Conditions}

/-! ### Stacks -/

section

variable (meter : Meter) (stack : Signals.CallStack) (calls : Nat)

@[simp] theorem stack_on : (meter.on stack).stack = stack := rfl

@[simp] theorem languages_on : (meter.on stack).languages = meter.languages := rfl

@[simp] theorem environments_on : (meter.on stack).environments = meter.environments := rfl

theorem metricsOf_on : (meter.on stack).metricsOf = meter.metricsOf := rfl

@[simp] theorem languages_deeper : (meter.deeper calls).languages = meter.languages := rfl

@[simp] theorem environments_deeper : (meter.deeper calls).environments = meter.environments := rfl

@[simp] theorem languages_inWorker : meter.inWorker.languages = meter.languages := rfl

@[simp] theorem environments_inWorker : meter.inWorker.environments = meter.environments := rfl

@[simp] theorem on_on (other : Signals.CallStack) : (meter.on other).on stack = meter.on stack := rfl

theorem deeper_on : (meter.on stack).deeper calls = meter.on (stack.enter calls) := rfl

theorem deeper_deeper (more : Nat) : (meter.deeper calls).deeper more = meter.deeper (calls + more) := by
  simp only [deeper, on, Signals.CallStack.enter, Nat.add_assoc]

def treeOf (content : Option String) (language : String) : Option Syntax.Tree :=
  if meter.parsed.contains language then content.bind (meter.parse · language) else none

/-- Two stacks on which a file is measured alike: both hold its tree within the calls down to the visit, or
neither does. -/
def HeldAlike (one other : Signals.CallStack) (u : SourceUnit) : Prop :=
  ∀ t ∈ meter.treeOf u.content (meter.languages.classify u.name).tag,
    (one.enter 3).holds t = (other.enter 3).holds t

instance (one other : Signals.CallStack) (u : SourceUnit) : Decidable (meter.HeldAlike one other u) :=
  inferInstanceAs (Decidable (∀ t ∈ meter.treeOf u.content (meter.languages.classify u.name).tag, _))

theorem analysis_on_congr {one other : Signals.CallStack} {content : Option String} {language : String}
    (held : ∀ t ∈ meter.treeOf content language, (one.enter 1).holds t = (other.enter 1).holds t) :
    (meter.on one).analysis content language = (meter.on other).analysis content language := by
  cases content with
  | none => rfl
  | some text =>
    refine Analysis.ofContentWith_congr fun (parsed : meter.parsed.contains language = true) t tree =>
      held t ?_
    rw [treeOf, if_pos parsed]
    exact tree

end

theorem measure_on_of_heldAlike {one other : Signals.CallStack} {u : SourceUnit}
    (held : meter.HeldAlike one other u) :
    (meter.on one).measure clock c u = (meter.on other).measure clock c u := by
  have same : (meter.on (one.enter 2)).analysis u.content (meter.languages.classify u.name).tag =
      (meter.on (other.enter 2)).analysis u.content (meter.languages.classify u.name).tag :=
    meter.analysis_on_congr held
  simp only [measure, profile, deeper_on, languages_on, Signals.CallStack.enter_enter, same]
  rfl

theorem metricsOf_eq_ok_iff {size : Binary64} {lines : Int} {language : Language} {profile : Profile}
    {m : Metrics} :
    meter.metricsOf clock c size lines language profile = .ok m ↔
      Figures meter clock c size lines language profile m := by
  constructor
  · intro h
    obtain ⟨environment, resolved, h⟩ := exists_of_bind_eq_ok h
    obtain ⟨thousands, divided, h⟩ := exists_of_bind_eq_ok h
    obtain ⟨energy, energyOk, h⟩ := exists_of_bind_eq_ok h
    obtain ⟨intensity, grid, h⟩ := exists_of_bind_eq_ok h
    obtain ⟨carbon, carbonOk, h⟩ := exists_of_bind_eq_ok h
    obtain ⟨complexity, complexityOk, h⟩ := exists_of_bind_eq_ok h
    obtain ⟨pressure, pressureOk, h⟩ := exists_of_bind_eq_ok h
    obtain rfl := Except.ok.inj h
    constructor
    case energy =>
      exact ⟨environment, thousands, resolved, ofArithmetic_eq_ok_iff.mp divided,
        ofArithmetic_eq_ok_iff.mp energyOk⟩
    case gridIntensity => exact grid
    case carbon => exact ofArithmetic_eq_ok_iff.mp carbonOk
    case complexity => exact ofArithmetic_eq_ok_iff.mp complexityOk
    case memPressure => exact ofArithmetic_eq_ok_iff.mp pressureOk
    all_goals rfl
  · intro h
    obtain ⟨environment, thousands, resolved, divided, energyOk⟩ := h.energy
    refine bind_eq_ok_of resolved (bind_eq_ok_of (liftM_eq_ok divided)
      (bind_eq_ok_of (liftM_eq_ok energyOk) (bind_eq_ok_of h.gridIntensity
        (bind_eq_ok_of (liftM_eq_ok h.carbon) (bind_eq_ok_of (liftM_eq_ok h.complexity)
          (bind_eq_ok_of (liftM_eq_ok h.memPressure) ?_))))))
    obtain ⟨energy, carbon, intensity, lines, complexity, pressure, recursive, tag⟩ := m
    obtain ⟨-, -, -, rfl, -, -, rfl, rfl⟩ := h
    rfl

/-- A measurement depends on its conditions through the environment and the grid that they come to. -/
theorem measure_congr {other : Int} {d : Conditions}
    (resolved : meter.environments.resolve c = meter.environments.resolve d)
    (grid : meter.environments.gridIntensity clock c = meter.environments.gridIntensity other d)
    (u : SourceUnit) : meter.measure clock c u = meter.measure other d u := by
  simp only [measure, metricsOf, resolved, grid]

theorem measure_sameAt {other : Int} {d : Conditions} (same : Conditions.SameAt clock other c d)
    (u : SourceUnit) : meter.measure clock c u = meter.measure other d u := by
  refine measure_congr ?_ ?_ u
  · rw [EnvironmentTables.resolve, EnvironmentTables.resolve, same.region, same.hardware]
  · rw [EnvironmentTables.gridIntensity, EnvironmentTables.gridIntensity, same.region, same.hour]

def analysisOf (meter : Meter) (u : SourceUnit) : Analysis :=
  ((meter.deeper 2).analysis u.content (meter.languages.classify u.name).tag).1

theorem outcome_measure (meter : Meter) (clock : Int) (c : Conditions) (u : SourceUnit) :
    (meter.measure clock c u).outcome = (do
      let size ← u.byteCount
      let lines ← linesOf u.content size
      let metrics ← meter.metricsOf clock c size lines (meter.languages.classify u.name)
        (meter.scoring.profile (meter.analysisOf u))
      return ⟨metrics, (meter.analysisOf u).branch, u.name⟩) := by
  unfold measure
  simp only [Recorded.outcome_bind]
  rfl

theorem measure_eq_ok_iff {u : SourceUnit} {m : Measurement} :
    (meter.measure clock c u).outcome = .ok m ↔
      m.branch = (meter.analysisOf u).branch ∧ m.fileName = u.name ∧
        ∃ size lines, u.byteCount = .ok size ∧ linesOf u.content size = .ok lines ∧
          Figures meter clock c size lines (meter.languages.classify u.name)
            (meter.scoring.profile (meter.analysisOf u)) m.metrics := by
  rw [outcome_measure]
  constructor
  · intro h
    obtain ⟨size, sized, h⟩ := exists_of_bind_eq_ok h
    obtain ⟨lines, counted, h⟩ := exists_of_bind_eq_ok h
    obtain ⟨metrics, measured, h⟩ := exists_of_bind_eq_ok h
    obtain rfl := Except.ok.inj h
    exact ⟨rfl, rfl, size, lines, sized, ofArithmetic_eq_ok_iff.mp counted,
      metricsOf_eq_ok_iff.mp measured⟩
  · intro ⟨branch, name, size, lines, sized, counted, figures⟩
    obtain ⟨metrics, _, _⟩ := m
    subst branch name
    exact bind_eq_ok_of sized (bind_eq_ok_of (liftM_eq_ok counted)
      (bind_eq_ok_of (metricsOf_eq_ok_iff.mpr figures) rfl))

theorem map_metrics_measure (meter : Meter) (clock : Int) (c : Conditions) (u : SourceUnit) :
    (meter.measure clock c u).outcome.map Measurement.metrics = (do
      let size ← u.byteCount
      let lines ← linesOf u.content size
      meter.metricsOf clock c size lines (meter.languages.classify u.name)
        (meter.scoring.profile (meter.analysisOf u))) := by
  rw [outcome_measure]
  simp only [map_bind_except]
  refine bind_congr fun size => bind_congr fun lines => ?_
  cases meter.metricsOf clock c size lines (meter.languages.classify u.name)
    (meter.scoring.profile (meter.analysisOf u)) <;> rfl

theorem outcome_compute (meter : Meter) (clock : Int) (c : Conditions) (size : Json) (name : String)
    (content : Option String) :
    (meter.compute clock c size name content).outcome = (do
      let u ← SourceUnit.ofInput meter.languages name content size
      return (← ((meter.deeper 1).measure clock c u).outcome).metrics) := by
  unfold compute
  simp only [Recorded.outcome_bind]
  rfl

end Meter
end Footprint
