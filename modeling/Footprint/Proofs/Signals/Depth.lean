import Footprint.Signals

/-! How deep the visit of a tree goes. A chain of operators takes two calls for each of them, so that there
are trees for the rim of any stack. -/
namespace Footprint

open Syntax

namespace Syntax.Tree

def negations : Nat → Tree
  | 0 => .leaf .number true "0"
  | n + 1 => .node .unary [(none, .leaf .token false "!"), (none, negations n)]

def negationProgram (n : Nat) : Tree :=
  .node .program [(none, .node .expressionStatement [(none, negations n)])]

def negationText (n : Nat) : String := "// for while do\n" ++ String.ofList (List.replicate n '!') ++ "0"

theorem isNamed_negations (n : Nat) : (negations n).isNamed = true := by
  cases n <;> rfl

end Syntax.Tree

namespace Signals

open Syntax.Tree

theorem visitDepth_negations (n : Nat) : visitDepth (negations n) = 2 * n + 2 := by
  induction n with
  | zero => rfl
  | succ n ih =>
    show max 0 (2 + max 0 (max (if (negations n).isNamed then visitDepth (negations n) else 0) 0)) = _
    rw [if_pos (isNamed_negations n), ih]
    omega

theorem visitDepth_negationProgram (n : Nat) : visitDepth (negationProgram n) = 2 * n + 6 := by
  show max 0 (2 + max (max 0 (2 + max (if (negations n).isNamed then visitDepth (negations n) else 0) 0)) 0) = _
  rw [if_pos (isNamed_negations n), visitDepth_negations]
  omega

theorem visit_negations (s : Signals) (n : Nat) : s.visit (negations n) = s := by
  induction n with
  | zero => rfl
  | succ n ih =>
    show (if (negations n).isNamed then s.visit (negations n) else s) = s
    rw [if_pos (isNamed_negations n), ih]

theorem visit_negationProgram (s : Signals) (n : Nat) : s.visit (negationProgram n) = s := by
  show (if (negations n).isNamed then s.visit (negations n) else s) = s
  rw [if_pos (isNamed_negations n), visit_negations]

end Signals
end Footprint
