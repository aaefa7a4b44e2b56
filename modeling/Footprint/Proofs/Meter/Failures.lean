import Footprint.Proofs.Meter.Figures

/-! How the figures of a file can fail: in arithmetic, over a value that is no number, or over a default
that is missing. A review fails in other ways, so that the failure tells which of the two it was. -/
namespace Footprint

def Failure.isOfFigures : Failure → Bool
  | .arithmetic _ | .integerText _ | .notIntegral _ | .missingEntry _ => true
  | _ => false

def Outcome.OfFigures {α : Type} (x : Outcome α) : Prop :=
  ∀ cause, x = .error cause → cause.isOfFigures = true

namespace Outcome.OfFigures

variable {α β : Type}

theorem ok (a : α) : OfFigures (.ok a) := nofun

theorem error {cause : Failure} (h : cause.isOfFigures = true) :
    OfFigures (.error cause : Outcome α) := by
  rintro other ⟨⟩
  exact h

theorem bind {x : Outcome α} {f : α → Outcome β} (hx : OfFigures x) (hf : ∀ a, OfFigures (f a)) :
    OfFigures (x >>= f) := by
  intro cause h
  obtain failed | ⟨a, -, failed⟩ := cases_of_bind_eq_error h
  · exact hx cause failed
  · exact hf a cause failed

theorem map {x : Outcome α} (hx : OfFigures x) (f : α → β) : OfFigures (x.map f) :=
  fun cause h => hx cause (eq_error_of_map_eq_error h)

theorem arithmetic (x : Except ArithmeticError α) : OfFigures (Outcome.ofArithmetic x) := by
  cases x with
  | ok a => exact ok a
  | error cause => exact error rfl

theorem lifted (x : Except ArithmeticError α) : OfFigures (liftM x : Outcome α) := arithmetic x

end Outcome.OfFigures

theorem Json.ofFigures_toInteger (value : Json) : Outcome.OfFigures value.toInteger := by
  cases value with
  | int n => exact .ok _
  | bool b => exact .ok _
  | float x => exact .arithmetic _
  | string s =>
    unfold toInteger
    dsimp only
    split
    · exact .ok _
    · exact .error rfl
  | null | array | object => exact .error rfl

theorem Json.ofFigures_toNumber (value : Json) : Outcome.OfFigures value.toNumber := by
  cases value with
  | int n => exact .arithmetic _
  | _ => exact .ok _

namespace EnvironmentTables

variable (tables : EnvironmentTables)

theorem ofFigures_resolveRegion (key : Json) : Outcome.OfFigures (tables.resolveRegion key) := by
  unfold resolveRegion
  split
  · exact .ok _
  · exact .error rfl

theorem ofFigures_resolve (c : Conditions) : Outcome.OfFigures (tables.resolve c) := by
  refine .bind (tables.ofFigures_resolveRegion _) fun region => .bind ?_ fun hardware => .ok _
  unfold resolveHardware
  split
  · exact .ok _
  · exact .error rfl

theorem ofFigures_gridIntensity (clock : Int) (c : Conditions) :
    Outcome.OfFigures (tables.gridIntensity clock c) := by
  refine .bind (tables.ofFigures_resolveRegion _) fun region => .bind ?_ fun hour => .lifted _
  unfold hourOf
  split
  · exact .ok _
  · exact .map (Json.ofFigures_toInteger _) _

end EnvironmentTables

namespace Meter

variable (meter : Meter) (clock : Int) (c : Conditions)

theorem ofFigures_metricsOf (size : Binary64) (lines : Int) (language : Language) (profile : Profile) :
    Outcome.OfFigures (meter.metricsOf clock c size lines language profile) := by
  unfold metricsOf
  refine .bind (meter.environments.ofFigures_resolve c) fun environment => ?_
  refine .bind (.lifted _) fun thousands => .bind (.lifted _) fun energy => ?_
  refine .bind (meter.environments.ofFigures_gridIntensity clock c) fun intensity => ?_
  refine .bind (.lifted _) fun carbon => .bind (.lifted _) fun complexity => ?_
  exact .bind (.lifted _) fun pressure => .ok _

theorem ofFigures_measure (u : SourceUnit) : Outcome.OfFigures (meter.measure clock c u).outcome := by
  rw [outcome_measure]
  refine .bind (.map (Json.ofFigures_toNumber _) _) fun size => ?_
  refine .bind (.lifted _) fun lines => ?_
  exact .bind (meter.ofFigures_metricsOf clock c size lines _ _) fun metrics => .ok _

end Meter
end Footprint
