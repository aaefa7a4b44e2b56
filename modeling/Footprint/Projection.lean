import Footprint.Decimal.Notation
import Footprint.Metrics

/-! Carbon over time: the figures of one execution scaled to days, weeks, months and years, the trees
that would take it up, and what it compares to. A tree takes up 21.77 kg a year, a car gives off
0.21 kg a km, a phone charge 2 g, a short flight 90 kg, a household 8.5 kg a day. -/
namespace Footprint

inductive Period where
  | daily | weekly | monthly | biannual | annual
  deriving DecidableEq, Repr

namespace Period

def all : List Period := [.daily, .weekly, .monthly, .biannual, .annual]

def name : Period → String
  | .daily => "daily"
  | .weekly => "weekly"
  | .monthly => "monthly"
  | .biannual => "biannual"
  | .annual => "annual"

def label : Period → String
  | .daily => "24_Hours"
  | .weekly => "1_Week"
  | .monthly => "1_Month"
  | .biannual => "6_Months"
  | .annual => "1_Year"

def days : Period → Int
  | .daily => 1
  | .weekly => 7
  | .monthly => 30
  | .biannual => 180
  | .annual => 365

end Period

structure Projection where
  period : Period
  executions : Int
  /-- In kWh. -/
  energy : Binary64
  /-- In kg of CO2e. -/
  co2 : Binary64
  trees : Int
  equivalent : String
  deriving DecidableEq

/-- All periods, with the scopes of greenhouse gas accounting in kg of CO2e. -/
structure ProjectionSummary where
  projections : List Projection
  scope1 : Binary64
  scope2 : Binary64
  scope3 : Binary64

namespace Projection

def treeKgPerYear : Binary64 := 21.77
def carKgPerKm : Binary64 := 0.21
def phoneChargeGrams : Binary64 := 2
def shortFlightKg : Binary64 := 90
def householdKgPerDay : Binary64 := 8.5
def scope3Share : Binary64 := 0.15

def defaultExecutionsPerDay : Int := 100

/-- What an amount of CO2e compares to, in a unit that suits its size. -/
def realWorldEquivalent (kg : Binary64) : Except ArithmeticError String := do
  if kg < 1 then
    return s!"{← (kg * 1000 / phoneChargeGrams).roundToInteger} smartphone charges"
  else if kg < 10 then
    return s!"{← (kg / carKgPerKm).roundToInteger} km by car"
  else if kg < 100 then
    return (kg / shortFlightKg).fixed 1 ++ " short flights"
  else
    return s!"{← (kg / householdKgPerDay).roundToInteger} days of home energy"

/-- The trees that take up an amount within a number of days, at least one. -/
def treesToOffset (kg : Binary64) (days : Int) : Except ArithmeticError Int := do
  let perYear := kg / treeKgPerYear
  let periodsPerYear ← Binary64.ofRatio? 365 days
  return max 1 (← (perYear * periodsPerYear).ceil?)

def scaled (m : Metrics) (perDay : Int) (period : Period) : Except ArithmeticError Projection := do
  let executions := perDay * period.days
  let times ← Binary64.ofInt? executions
  let co2 := m.carbon * times / 1000
  return {
    period, executions, co2
    energy := m.energy * times
    trees := ← treesToOffset co2 period.days
    equivalent := ← realWorldEquivalent co2 }

def executionsPerDay (given : Int) : Int := max 0 given

/-- Scope 2 is the annual amount, scope 3 a share of it. -/
def summary (m : Metrics) (given : Int) : Except ArithmeticError ProjectionSummary := do
  let perDay := executionsPerDay given
  let projections ← Period.all.mapM (scaled m perDay)
  let annual := (projections.getLast?.map Projection.co2).getD 0
  return ⟨projections, 0, annual, annual * scope3Share⟩

end Projection

def ProjectionSummary.byPeriod? (s : ProjectionSummary) (name : String) : Option Projection :=
  s.projections.find? fun p => p.period.name == name

end Footprint
