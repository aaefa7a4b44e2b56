/-! The outline of a Python source: what decides where it goes on, and which functions and classes it
decides it in. The cyclomatic complexity of a function is one more than its decisions; functions and
classes inside it count for themselves alone. That of a class is the mean over its methods. -/
namespace Footprint.Cyclomatic

inductive Outline where
  /-- A statement with decisions of its own, and the statements inside it. -/
  | statement (decisions : Nat) (inner : List Outline)
  | function (body : List Outline)
  | classBody (body : List Outline)

namespace Outline

mutual

/-- The decisions in a statement, those of functions and classes left out. -/
def decisions : Outline → Nat
  | .statement n inner => n + decisionsAll inner
  | .function _ => 0
  | .classBody _ => 0

def decisionsAll : List Outline → Nat
  | [] => 0
  | o :: rest => decisions o + decisionsAll rest

end

def functionComplexity (body : List Outline) : Nat := 1 + decisionsAll body

mutual

/-- The complexities of the functions in a statement that are in no other function or class. -/
def methods : Outline → List Nat
  | .statement _ inner => methodsAll inner
  | .function body => [functionComplexity body]
  | .classBody _ => []

def methodsAll : List Outline → List Nat
  | [] => []
  | o :: rest => methods o ++ methodsAll rest

end

/-- The complexity of a class: everything in it over its methods, and one more when there are several. -/
def classComplexity (body : List Outline) : Nat :=
  let all := methodsAll body
  let total := 1 + decisionsAll body + all.foldr (· + ·) 0
  match all.length with
  | 0 => total
  | n => total / n + (if 1 < n then 1 else 0)

mutual

/-- The complexities of all blocks: functions and classes that are in no function, and the methods of
those classes. -/
def blocks : Outline → List Nat
  | .statement _ inner => blocksAll inner
  | .function body => [functionComplexity body]
  | .classBody body => classComplexity body :: methodsAll body

def blocksAll : List Outline → List Nat
  | [] => []
  | o :: rest => blocks o ++ blocksAll rest

end

end Outline
end Footprint.Cyclomatic
