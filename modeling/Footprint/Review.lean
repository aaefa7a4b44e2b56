import Footprint.Json.Loose
import Footprint.Metrics

/-! Reviews: a score from 1 to 10 and three remarks. A review is read from a JSON object, or drawn from
the figures alone when there is no reviewer to ask. -/
namespace Footprint

structure Review where
  score : Int
  bottleneck : String
  optimization : String
  improvement : String
  deriving DecidableEq, Repr

namespace Review

/-! ### Reading -/

/-- What is wrong with a score, if anything: only an integer from 1 to 10 is one. -/
def scoreProblem? : Option Json → Option FieldProblem
  | none => some .missing
  | some (.int n) => if n < 1 then some .belowLeast else if 10 < n then some .aboveGreatest else none
  | some _ => some .notInteger

/-- What is wrong with a remark, if anything: only a text that is not empty is one. -/
def remarkProblem? : Option Json → Option FieldProblem
  | none => some .missing
  | some (.string s) => if s.isEmpty then some .emptyText else none
  | some _ => some .notText

def fieldProblem? (payload : Json) (field : ReviewField) : Option FieldProblem :=
  match field with
  | .score => scoreProblem? (payload.member? field.name)
  | _ => remarkProblem? (payload.member? field.name)

def fields : List ReviewField := [.score, .bottleneck, .optimization, .improvement]

/-- The problems of an object, one for each field that has one, in the order of the fields. -/
def problems (payload : Json) : List (ReviewField × FieldProblem) :=
  fields.filterMap fun field => (fieldProblem? payload field).map (field, ·)

def scoreOf : Option Json → Int
  | some (.int n) => n
  | _ => 0

def remarkOf : Option Json → String
  | some (.string s) => s
  | _ => ""

def ofFields (payload : Json) : Review where
  score := scoreOf (payload.member? ReviewField.score.name)
  bottleneck := remarkOf (payload.member? ReviewField.bottleneck.name)
  optimization := remarkOf (payload.member? ReviewField.optimization.name)
  improvement := remarkOf (payload.member? ReviewField.improvement.name)

/-- The review that an object holds when nothing is wrong with its fields. -/
def ofJson (payload : Json) : Outcome Review :=
  match payload with
  | .object _ =>
    match problems payload with
    | [] => .ok (ofFields payload)
    | found => .error (.invalidReview found)
  | other => .error (.reviewNotObject other.kindName)

def toJson (r : Review) : Json :=
  .object [("score", .int r.score), ("bottleneck", .string r.bottleneck),
    ("optimization", .string r.optimization), ("improvement", .string r.improvement)]

/-! ### Without a reviewer -/

def highComplexity : Binary64 := 2

def bottleneckHigh : String :=
  "High computational complexity from loops, nested iteration or recursive calls."

def bottleneckLow : String := "No major computational bottleneck detected."

def optimizationRecursion : String :=
  "Replace recursion with iteration or memoization to avoid repeated call-stack work."

def optimizationNested : String :=
  "Flatten nested logic and combine passes over the same data to cut redundant iterations."

def optimizationDefault : String :=
  "Code is reasonably efficient; cache repeated lookups and avoid redundant allocations."

def clampScore (n : Int) : Int := max 1 (min 10 n)

def isHigh (m : Metrics) : Bool := highComplexity < m.complexity

def improvementText (percent : Int) : String :=
  s!"Estimated {percent}% Energy reduction possible."

/-- Two points off for each unit of complexity. -/
def scoreFor (complexity : Binary64) : Except ArithmeticError Int := do
  return clampScore (10 - (← (complexity * 2).floor?))

def percentFor (complexity : Binary64) : Except ArithmeticError Int :=
  (complexity * 5).roundToInteger

def ofMetrics (m : Metrics) : Except ArithmeticError Review := do
  return {
    score := ← scoreFor m.complexity
    bottleneck := if isHigh m then bottleneckHigh else bottleneckLow
    optimization :=
      if m.recursive then optimizationRecursion
      else if isHigh m then optimizationNested
      else optimizationDefault
    improvement := improvementText (← percentFor m.complexity) }

end Review

inductive Tier where
  | top | mid | low
  deriving DecidableEq, Repr

def Tier.name : Tier → String
  | .top => "top"
  | .mid => "mid"
  | .low => "low"

def Tier.ofScore (score : Int) : Tier :=
  if 8 ≤ score then .top else if 6 ≤ score then .mid else .low

end Footprint
