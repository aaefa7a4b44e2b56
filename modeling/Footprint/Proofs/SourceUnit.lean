import Footprint.Pipeline.Source
import Footprint.Proofs.Meter.Refusal
import Footprint.Proofs.Pipeline.Steps

/-! What counts of a file when it is measured: its name, its content and the number of its bytes. The size
may be written in several ways, and a unit that is made again from its own fields is measured alike. -/
namespace Footprint

open Binary64

namespace SourceUnit

def takenSize (u : SourceUnit) : Json := if u.size.isNull then .float 0 else u.size

theorem takenSize_spec (u : SourceUnit) :
    u.takenSize ≠ .null ∧ u.takenSize.toNumber = u.size.toNumber := by
  unfold takenSize
  cases u.size with
  | null => exact ⟨nofun, Json.toNumber_float zero_spec.1⟩
  | _ => exact ⟨nofun, rfl⟩

def remade (languages : LanguageTable) (u : SourceUnit) : Outcome SourceUnit :=
  ofInput languages u.name u.content u.takenSize

structure Alike (u v : SourceUnit) : Prop where
  name : u.name = v.name
  content : u.content = v.content
  byteCount : u.byteCount = v.byteCount

theorem max_zero_max (x : Binary64) : Binary64.max 0 (Binary64.max 0 x) = Binary64.max 0 x := by
  unfold Binary64.max
  by_cases above : 0 < x
  · simp only [if_pos above]
  · simp only [if_neg above, ite_self]

theorem remade_cases (languages : LanguageTable) (u : SourceUnit) :
    (∃ cause, u.remade languages = .error cause ∧ u.byteCount = .error cause) ∨
      ∃ made, u.remade languages = .ok made ∧ u.Alike made := by
  obtain ⟨given, number⟩ := u.takenSize_spec
  rw [remade, ofInput_of_ne_null languages u.name u.content given, number]
  obtain ⟨n, -, -, refused⟩ | ⟨-, x, finite, converted⟩ := Json.toNumber_cases u.size
  · refine .inl ⟨_, by rw [refused]; rfl, by rw [byteCount, refused]; rfl⟩
  · refine .inr ⟨⟨u.name, .float (Binary64.max 0 x), u.content, (languages.classify u.name).tag⟩,
      by rw [converted]; rfl, rfl, rfl, ?_⟩
    have bounded : (Binary64.max 0 x).isFinite = true := by
      unfold Binary64.max
      split
      · exact finite
      · exact zero_spec.1
    have again : (Json.float (Binary64.max 0 x)).toNumber = _ := Json.toNumber_float bounded
    rw [byteCount, byteCount, converted, again]
    exact congrArg Except.ok (max_zero_max x).symm

theorem ofStored_ofBytes (languages : LanguageTable) (p : Path) (bytes : List UInt8) :
    ofStored languages p (.ofBytes bytes) = ofBytes languages p bytes := by
  rw [ofStored, StoredFile.ofBytes, FileReading.outcome, ok_bind]

end SourceUnit

namespace Meter

variable {meter : Meter} {clock : Int} {c : Conditions}

theorem measure_alike {u v : SourceUnit} (h : u.Alike v) :
    meter.measure clock c u = meter.measure clock c v := by
  unfold measure SourceUnit.label
  rw [h.name, h.content, h.byteCount]

theorem measure_of_error {u : SourceUnit} {cause : Failure} (h : u.byteCount = .error cause) :
    (meter.measure clock c u).outcome = .error cause := by
  rw [outcome_measure, h]
  rfl

theorem outcome_compute_takenSize (meter : Meter) (clock : Int) (c : Conditions) (u : SourceUnit) :
    (meter.compute clock c u.takenSize u.name u.content).outcome =
      ((meter.deeper 1).measure clock c u).outcome.map Measurement.metrics := by
  rw [outcome_compute]
  obtain ⟨cause, refused, unsized⟩ | ⟨made, remade, alike⟩ := u.remade_cases meter.languages
  · rw [SourceUnit.remade] at refused
    rw [refused, measure_of_error unsized]
    rfl
  · rw [SourceUnit.remade] at remade
    rw [remade, measure_alike alike]
    rfl

theorem outcome_compute_of_measure {u : SourceUnit} {m : Measurement} (sized : u.size.isNull = false)
    (measured : ((meter.deeper 1).measure clock c u).outcome = .ok m) :
    (meter.compute clock c u.size u.name u.content).outcome = .ok m.metrics := by
  have taken : u.takenSize = u.size := if_neg (by simp [sized])
  have computed := meter.outcome_compute_takenSize clock c u
  rw [measured, taken] at computed
  exact computed

end Meter

namespace Pipeline

variable {σ : Type} (p : Pipeline σ)

theorem run_alike {u v : SourceUnit} (h : u.Alike v) (r : Request) (world : σ) :
    p.run r u world = p.run r v world := by
  unfold run SourceUnit.label
  rw [Meter.measure_alike h, h.name, h.content]

theorem outcome_runFrom_remade (r : Request) (u : SourceUnit) (world : σ) :
    (p.runFrom r (u.remade p.meter.languages) world).1.outcome = (p.run r u world).1.outcome := by
  obtain ⟨cause, refused, unsized⟩ | ⟨made, remade, alike⟩ := u.remade_cases p.meter.languages
  · rw [refused, (run_of_error (Meter.measure_of_error unsized) world).1]
    rfl
  · rw [remade, p.run_alike alike]
    rfl

end Pipeline
end Footprint
