import Footprint.Json.Loose
import Footprint.Text.LowerCase

/-! Where and on what a program runs: the region with its grid, the hardware, and the hour, by which
the intensity of the grid varies. Keys are compared without case and blanks around; a key that
names no entry, or is no text, stands for the default. -/
namespace Footprint

structure Region where
  key : String
  label : String
  /-- Power drawn per unit of power used. -/
  factor : Binary64
  /-- Grams of CO2e per kWh over the day. -/
  intensity : Int
  bestHour : Int
  deriving DecidableEq

structure Hardware where
  key : String
  label : String
  factor : Binary64
  deriving DecidableEq

/-- Entries are found by the keys of the tables, which need not be those that the entries have themselves. -/
structure EnvironmentTables where
  regions : List (String × Region)
  hardware : List (String × Hardware)
  defaultRegion : String
  defaultHardware : String

structure Environment where
  region : Region
  hardware : Hardware
  deriving DecidableEq

structure Conditions where
  region : Json := .null
  hardware : Json := .null
  hour : Json := .null

def isNightHour (hour : Int) : Bool := 22 ≤ hour || hour ≤ 5

def nightFactor : Binary64 := 0.75

def dayFactor : Binary64 := 1.15

def hourFactor (hour : Int) : Binary64 := if isNightHour hour then nightFactor else dayFactor

namespace EnvironmentTables

def builtIn : EnvironmentTables where
  regions :=
    [("north-america", ⟨"north-america", "North America", 1.15, 450, 4⟩),
      ("europe", ⟨"europe", "Europe", 1.1, 320, 3⟩), ("asia", ⟨"asia", "Asia Pacific", 1.35, 580, 2⟩),
      ("australia", ⟨"australia", "Australia", 1.25, 620, 13⟩),
      ("nordics", ⟨"nordics", "Nordics", 1.08, 120, 1⟩)]
  hardware :=
    [("mobile", ⟨"mobile", "Mobile / Edge", 0.4⟩), ("laptop", ⟨"laptop", "Laptop / Workstation", 1.0⟩),
      ("server", ⟨"server", "Server / Cloud", 2.5⟩)]
  defaultRegion := "europe"
  defaultHardware := "laptop"

def normalize : Json → String
  | .string key => Text.lower (Text.strip key)
  | _ => ""

def region? (tables : EnvironmentTables) (key : String) : Option Region :=
  tables.regions.lookup key

def hardware? (tables : EnvironmentTables) (key : String) : Option Hardware :=
  tables.hardware.lookup key

def resolveRegion (tables : EnvironmentTables) (key : Json) : Outcome Region :=
  match (tables.region? (normalize key)).or (tables.region? tables.defaultRegion) with
  | some region => .ok region
  | none => .error (.missingEntry tables.defaultRegion)

def resolveHardware (tables : EnvironmentTables) (key : Json) : Outcome Hardware :=
  match (tables.hardware? (normalize key)).or (tables.hardware? tables.defaultHardware) with
  | some hardware => .ok hardware
  | none => .error (.missingEntry tables.defaultHardware)

def resolve (tables : EnvironmentTables) (c : Conditions) : Outcome Environment := do
  return ⟨← tables.resolveRegion c.region, ← tables.resolveHardware c.hardware⟩

def hourOf (clock : Int) (hour : Json) : Outcome Int :=
  if hour.isNull then .ok clock else hour.toInteger.map (· % 24)

def intensityAt (region : Region) (hour : Int) : Except ArithmeticError Int := do
  (← Binary64.ofInt? region.intensity) * hourFactor hour |>.roundToInteger

def gridIntensity (tables : EnvironmentTables) (clock : Int) (c : Conditions) : Outcome Int := do
  let region ← tables.resolveRegion c.region
  let hour ← hourOf clock c.hour
  intensityAt region hour

end EnvironmentTables
end Footprint
