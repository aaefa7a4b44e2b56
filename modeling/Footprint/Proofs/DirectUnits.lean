import Footprint.Proofs.Batch.Completion
import Footprint.Proofs.Binary64.FixedPoints
import Footprint.Proofs.SourceUnit

/-! Units that are built field by field, without the look at what is known of the file that makes a unit
from input. With a size they are measured like the unit made from the same input. Without one the two
ways part: the unit is measured as an empty file, whether or not it has a content. -/
namespace Footprint

open Binary64

/-! ### Requests -/

namespace Meter

theorem outcome_compute_of_heldAlike {meter : Meter} {stack : Signals.CallStack} {u : SourceUnit}
    (held : meter.HeldAlike stack (meter.stack.enter 1) u) (clock : Int) (c : Conditions) :
    (meter.compute clock c u.takenSize u.name u.content).outcome =
      ((meter.on stack).measure clock c u).outcome.map Measurement.metrics := by
  rw [outcome_compute_takenSize, measure_on_of_heldAlike held, deeper]

theorem alone_eq_compute {meter : Meter} {stack : Signals.CallStack} {units : List SourceUnit}
    (held : ∀ u ∈ units, meter.HeldAlike stack (meter.stack.enter 1) u) (clock : Int) (c : Conditions) :
    (Batch.alone (meter.on stack) clock c units).map (·.map Measurement.metrics) =
      units.map fun u =>
        (meter.compute clock (Batch.atOneHour clock c) u.takenSize u.name u.content).outcome := by
  rw [Batch.alone, List.map_map]
  exact List.map_congr_left fun u member => (outcome_compute_of_heldAlike (held u member) clock _).symm

end Meter

namespace SourceUnit

variable {us vs : List SourceUnit}

theorem map_alike {α : Type} {f : SourceUnit → α} (same : ∀ u v, Alike u v → f u = f v)
    (h : List.Forall₂ Alike us vs) : us.map f = vs.map f := by
  induction h with
  | nil => rfl
  | cons first _ ih => rw [List.map_cons, List.map_cons, same _ _ first, ih]

theorem combinedContent_alike (h : List.Forall₂ Alike us vs) :
    combinedContent us = combinedContent vs := by
  have contents := map_alike (fun _ _ alike => alike.content) h
  have shown (units : List SourceUnit) : combinedContent units =
      "\n".intercalate (((units.map content).filterMap id).filter (!·.isEmpty)) := by
    rw [List.filterMap_map]
    rfl
  rw [shown, shown, contents]

theorem measureMany_alike (meter : Meter) (clock : Int) (c : Conditions)
    (h : List.Forall₂ Alike us vs) (limit : Int) (choices : List Nat) :
    Batch.measureMany meter clock c us limit choices =
      Batch.measureMany meter clock c vs limit choices := by
  have each (u v : SourceUnit) (alike : Alike u v) :
      meter.inWorker.measure clock (Batch.atOneHour clock c) u =
        meter.inWorker.measure clock (Batch.atOneHour clock c) v :=
    Meter.measure_alike alike
  have measured := map_alike each h
  have tasks (units : List SourceUnit) (i : Nat) :
      (units[i]?.map fun u => (i, meter.inWorker.measure clock (Batch.atOneHour clock c) u)) =
        (units.map (meter.inWorker.measure clock (Batch.atOneHour clock c)))[i]?.map fun m => (i, m) := by
    rw [List.getElem?_map, Option.map_map]
    rfl
  unfold Batch.measureMany Batch.measureInOrder
  simp only [tasks, measured, h.length_eq]

end SourceUnit

namespace Pipeline

variable {σ : Type} (p : Pipeline σ)

theorem advance_alike {r : BatchRequest} {units : List SourceUnit}
    (h : List.Forall₂ SourceUnit.Alike r.units units) (shared : Shared σ) (progress : Progress) :
    p.advance r shared progress = p.advance { r with units } shared progress := by
  have empty : r.units.isEmpty = units.isEmpty := by
    rw [Bool.eq_iff_iff, List.isEmpty_iff_length_eq_zero, List.isEmpty_iff_length_eq_zero, h.length_eq]
  have label : r.label = ({ r with units } : BatchRequest).label := by
    rw [BatchRequest.label, BatchRequest.label, h.length_eq]
  have measured := SourceUnit.measureMany_alike p.meter r.clock r.conditions h p.workers r.choices
  have content := SourceUnit.combinedContent_alike h
  cases progress <;> unfold advance <;> dsimp only
  case received => rw [empty, label]
  case begun => rw [measured]
  case confirmed => rw [label]
  case combined => rw [label, content]

theorem runMany_alike {r : BatchRequest} {units : List SourceUnit}
    (h : List.Forall₂ SourceUnit.Alike r.units units) (shared : Shared σ) :
    p.runMany r shared = p.runMany { r with units } shared := by
  have steps (n : Nat) (state : Progress × Shared σ × List Event) :
      p.advances r n state = p.advances { r with units } n state := by
    induction n generalizing state with
    | zero => rfl
    | succ n ih =>
      obtain ⟨progress, shared, events⟩ := state
      rw [advances, advances, p.advance_alike h]
      exact ih _
  rw [runMany, runMany, steps]

end Pipeline

/-! ### A size that is missing -/

namespace Binary64

def IsNothing (x : Binary64) : Prop := x = nan ∨ ∃ negative, x = zero negative

theorem IsNothing.mul {x : Binary64} (h : x.IsNothing) (y : Binary64) : (x * y).IsNothing := by
  obtain rfl | ⟨s, rfl⟩ := h
  · exact .inl rfl
  cases y with
  | nan => exact .inl rfl
  | infinite t => exact .inl rfl
  | finite t n q fits =>
    refine .inr ⟨s != t, ?_⟩
    have product : zero s * finite t n q fits =
        ofUnits (s != t) ((0 <<< 0) * (n <<< q)) unitsPerOne := rfl
    rw [product, Nat.zero_shiftLeft, Nat.zero_mul, ofUnits_zero]

theorem IsNothing.max_eq {x : Binary64} (h : x.IsNothing) : Binary64.max 0 x = 0 := by
  obtain rfl | ⟨s, rfl⟩ := h
  · exact max_nan 0
  · have none : ∀ s, ¬ 0 < zero s := by decide +kernel
    exact if_neg (none s)

end Binary64

namespace Meter

theorem zero_spec_of_rounding :
    ((0 : Binary64).roundHalfUp (3 : Nat)).toOption = some 0 ∧
      ((0 : Binary64).roundHalfUp (2 : Nat)).toOption = some 0 ∧ (0 : Binary64) / 1024 = zero false ∧
      (0 : Binary64) = zero false ∧ ((0 : Binary64) / bytesPerLine).ceil?.toOption = some 0 ∧
      ((1.0 : Binary64).roundHalfUp (2 : Nat)).toOption = some 1.0 := by
  decide +kernel

theorem roundAmount_of_isNothing {x : Binary64} (h : x.IsNothing) (places : Nat)
    (fixed : ((0 : Binary64).roundHalfUp places).toOption = some 0) : roundAmount x places = .ok 0 := by
  rw [roundAmount, h.max_eq]
  exact eq_ok_of_toOption fixed

theorem roundEnergy_of_no_bytes (meter : Meter) (profile : Profile) (multiplier : Binary64)
    (environment : Environment) (lines : Binary64) :
    roundEnergy (meter.rawEnergy 0 profile multiplier environment lines) = .ok 0 := by
  obtain ⟨fixed, -, base, -⟩ := zero_spec_of_rounding
  refine roundAmount_of_isNothing ?_ 3 fixed
  have kilobytes : ((0 : Binary64) / 1024).IsNothing := .inr ⟨false, base⟩
  exact ((((((kilobytes.mul _).mul _).mul _).mul _).mul _).mul _).mul _

theorem carbonOf_no_energy {intensity : Int} {grid : Binary64} (h : ofInt? intensity = .ok grid) :
    carbonOf 0 intensity = .ok 0 := by
  obtain ⟨-, fixed, -, positive, -⟩ := zero_spec_of_rounding
  have nothing : (0 * grid).IsNothing := IsNothing.mul (.inr ⟨false, positive⟩) grid
  exact bind_eq_ok_of h (roundAmount_of_isNothing nothing 2 fixed)

theorem byteCount_of_no_size {u : SourceUnit} (missing : u.size = .null) : u.byteCount = .ok 0 := by
  have zero : Binary64.max 0 0 = 0 := if_neg (by decide +kernel)
  rw [SourceUnit.byteCount, missing]
  exact congrArg Except.ok zero

def emptyFigures (intensity : Int) (tag : String) : Metrics where
  energy := 0
  carbon := 0
  gridIntensity := intensity
  lineCount := 0
  complexity := 1.0
  memPressure := 1.0
  recursive := false
  language := tag

variable {meter : Meter} {clock : Int} {c : Conditions} {u : SourceUnit}

theorem measure_of_nothing (missing : u.size = .null) (unknown : u.content = none)
    {environment : Environment} (resolved : meter.environments.resolve c = .ok environment)
    {intensity : Int} (grid : meter.environments.gridIntensity clock c = .ok intensity)
    {intensity' : Binary64} (converted : ofInt? intensity = .ok intensity') :
    (meter.measure clock c u).outcome =
      .ok ⟨emptyFigures intensity (meter.languages.classify u.name).tag, .sizeOnly, u.name⟩ := by
  obtain ⟨-, -, -, -, lines, one⟩ := zero_spec_of_rounding
  have analysis : meter.analysisOf u = .ofSizeOnly := by rw [analysisOf, unknown]; rfl
  obtain ⟨thousands, divided, -⟩ : ∃ t, ofRatio? 0 1000 = .ok t ∧ t.UpTo 0 :=
    exists_thousands (by omega) (by omega) (by omega)
  refine measure_eq_ok_iff.mpr ⟨by rw [analysis]; rfl, rfl, 0, 0, byteCount_of_no_size missing, ?_, ?_⟩
  · rw [unknown]
    exact eq_ok_of_toOption lines
  · rw [analysis]
    constructor
    case energy =>
      exact ⟨environment, thousands, resolved, divided, meter.roundEnergy_of_no_bytes _ _ _ _⟩
    case gridIntensity => exact grid
    case carbon => exact carbonOf_no_energy converted
    case complexity | memPressure => exact eq_ok_of_toOption one
    all_goals rfl

theorem measure_of_no_size {stack : Signals.CallStack} (missing : u.size = .null) {text : String}
    (known : u.content = some text) (held : meter.HeldAlike stack (meter.stack.enter 1) u) {m : Metrics}
    (h : (meter.compute clock c .null u.name (some text)).outcome = .ok m) :
    ((meter.on stack).measure clock c u).outcome.map Measurement.metrics =
      .ok { m with energy := 0, carbon := 0 } := by
  rw [outcome_compute] at h
  obtain ⟨made, same, computed⟩ := exists_of_bind_eq_ok h
  obtain ⟨measurement, measured, copied⟩ := exists_of_bind_eq_ok computed
  obtain rfl := Except.ok.inj same
  obtain rfl := Except.ok.inj copied
  obtain ⟨-, -, size, lines, -, counted, figures⟩ := measure_eq_ok_iff.mp measured
  obtain ⟨environment, thousands, resolved, divided, -⟩ := figures.energy
  obtain ⟨grid, converted, -⟩ := exists_of_bind_eq_ok figures.carbon
  have analysis : (meter.deeper 1).analysisOf ⟨u.name, .float (byteLength text), some text,
      (meter.languages.classify u.name).tag⟩ = (meter.deeper 1).analysisOf u := by
    rw [analysisOf, analysisOf, known]
  rw [analysis] at figures
  have alike : ((meter.deeper 1).measure clock c u).outcome =
      .ok ⟨{ measurement.metrics with energy := 0, carbon := 0 }, ((meter.deeper 1).analysisOf u).branch,
        u.name⟩ := by
    refine measure_eq_ok_iff.mpr ⟨rfl, rfl, 0, lines, byteCount_of_no_size missing, ?_, ?_⟩
    · rw [known]
      exact counted
    · constructor
      case energy =>
        exact ⟨environment, thousands, resolved, divided,
          (meter.deeper 1).roundEnergy_of_no_bytes _ _ _ _⟩
      case gridIntensity => exact figures.gridIntensity
      case carbon => exact carbonOf_no_energy converted
      case lineCount => exact figures.lineCount
      case complexity => exact figures.complexity
      case memPressure => exact figures.memPressure
      case recursive => exact figures.recursive
      case language => exact figures.language
  rw [measure_on_of_heldAlike held, ← deeper, alike]
  rfl

end Meter

namespace Pipeline

variable {σ : Type} (p : Pipeline σ)

/-- A request for one file has the figures that are computed, or fails as computing them does. -/
theorem run_as_computed (r : Request) (u : SourceUnit) (world : σ) :
    let computed := (p.meter.compute r.clock r.conditions u.takenSize u.name u.content).outcome
    (∀ cause, computed = .error cause → (p.run r u world).1.outcome = .error cause) ∧
      ∀ result, (p.run r u world).1.outcome = .ok result → computed = .ok result.metrics := by
  dsimp only
  rw [Meter.outcome_compute_takenSize]
  refine ⟨fun cause h => ?_, fun result h => ?_⟩
  · exact (run_of_error (eq_error_of_map_eq_error h) world).1
  · obtain ⟨m, measured, reviewed⟩ := exists_review_of_run h
    obtain ⟨_, -, -, shown⟩ := exists_of_review reviewed
    rw [measured, shown]
    rfl

end Pipeline

def nameOnly : SourceUnit := ⟨"a.js", .null, none, "js"⟩

def lineOnly : SourceUnit := ⟨"a.py", .null, some "x = 1", "py"⟩

/-- The built-in meter at a higher rate, under which a line has an energy above the places shown. -/
def highRate : Meter := { energyPerKb := 1 }

def lineFigures : Metrics := ⟨0.01, 3.68, 368, 1, 1.0, 1.0, false, "py"⟩

end Footprint
