import Footprint.Analysis

/-! Complexity and memory pressure of a content: factors of its energy, at least one and never above a
cap. -/
namespace Footprint

structure Profile where
  complexity : Binary64 := 1.0
  memPressure : Binary64 := 1.0
  recursive : Bool := false
  deriving DecidableEq

structure Scoring where
  loopFactor : Binary64 := 0.15
  syntaxCap : Binary64 := 5.0
  keywordCap : Binary64 := 3.0
  memoryCap : Binary64 := 2.5
  deriving DecidableEq

namespace Scoring

/-- At most the cap, then at least one. -/
def clamp (x cap : Binary64) : Binary64 := Binary64.max 1.0 (x.min cap)

def profile (scoring : Scoring) (a : Analysis) : Profile :=
  match a.branch with
  | .keywords =>
    { complexity := clamp (1.0 + a.signals.loops * scoring.loopFactor) scoring.keywordCap }
  | .sizeOnly => {}
  | .syntaxTree =>
    { complexity :=
        clamp (1.0 + a.signals.loops * scoring.loopFactor + a.signals.nesting + a.signals.recursion)
          scoring.syntaxCap
      memPressure := clamp (1.0 + a.signals.allocation) scoring.memoryCap
      recursive := a.signals.recursive }

end Scoring
end Footprint
