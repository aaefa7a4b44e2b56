import Footprint.Binary64.Arithmetic
import Footprint.Syntax.Walk

/-! What a syntax tree tells about the work a program does: loops, loops within one function, calls of
a function by itself, and literals that allocate. The counters are running sums of weights, taken in
the order in which the constructs are written. -/
namespace Footprint

open Syntax

structure Signals where
  loops : Binary64 := 0
  nesting : Binary64 := 0
  recursion : Binary64 := 0
  allocation : Binary64 := 0
  recursive : Bool := false
  deriving DecidableEq

namespace Signals

def loopWeight : Binary64 := 1.0

def iterationCallWeight : Binary64 := 0.5

def nestingBonus : Binary64 := 0.8

def recursionBonus : Binary64 := 1.5

def allocationWeight : Binary64 := 0.2

def iterationMethods : List String := ["map", "filter", "forEach", "reduce", "push", "concat"]

def isLoop (k : Kind) : Bool :=
  k == .forStatement || k == .forInStatement || k == .whileStatement || k == .doStatement

/-- Loops that count towards nesting; those that test at the end do not. -/
def isEntryLoop (k : Kind) : Bool :=
  k == .forStatement || k == .forInStatement || k == .whileStatement

def isFunctionDeclaration (k : Kind) : Bool :=
  k == .functionDeclaration || k == .generatorFunctionDeclaration

def isAllocation (k : Kind) : Bool := k == .array || k == .object

end Signals
end Footprint

namespace Footprint.Syntax.Tree

open Signals

def memberProperty? (t : Tree) : Option String :=
  if t.kind = .member then (t.child? .property).map text else none

/-- The property that a call goes through, if its callee is a member. -/
def calledMember? (call : Tree) : Option String := (call.child? .callee).bind memberProperty?

def calledName? (call : Tree) : Option String :=
  (call.child? .callee).bind fun callee =>
    if callee.kind = .identifier then some callee.text else callee.memberProperty?

def entryLoops (body : Tree) : Nat := (body.walk.filter fun t => isEntryLoop t.kind).length

def calls (body : Tree) (name : String) : Bool :=
  body.walk.any fun t => t.kind == .call && t.calledName? == some name

end Footprint.Syntax.Tree

namespace Footprint.Signals

open Syntax

/-- Adds what a declaration of a function by name says about its body. -/
def enterFunction (s : Signals) (t : Tree) : Signals :=
  match (t.child? .name).map Tree.text, t.child? .body with
  | some name, some body =>
    if name.isEmpty then s
    else
      let s := if 1 < body.entryLoops then { s with nesting := s.nesting + nestingBonus } else s
      if body.calls name then { s with recursion := s.recursion + recursionBonus, recursive := true }
      else s
  | _, _ => s

/-- Adds what one tree says by itself, apart from the trees below it. -/
def enter (s : Signals) (t : Tree) : Signals :=
  if isLoop t.kind then { s with loops := s.loops + loopWeight }
  else if t.kind = .call then
    if (t.calledMember?.map iterationMethods.contains).getD false then
      { s with loops := s.loops + iterationCallWeight }
    else s
  else if isFunctionDeclaration t.kind then s.enterFunction t
  else if t.kind = .variableDeclarator then
    if ((t.child? .value).map fun v => isAllocation v.kind).getD false then
      { s with allocation := s.allocation + allocationWeight }
    else s
  else s

mutual

/-- Adds what a tree and the named trees below it say, a tree before those below. -/
def visit (s : Signals) : Tree → Signals
  | .leaf kind named text => s.enter (.leaf kind named text)
  | .node kind children => visitAll (s.enter (.node kind children)) children

def visitAll (s : Signals) : List (Option Field × Tree) → Signals
  | [] => s
  | c :: rest => visitAll (if c.2.isNamed then visit s c.2 else s) rest

end

/-- The calls that the visit of a tree takes: two, and one more for the constructs that are counted. -/
def visitCost (k : Kind) : Nat :=
  if isLoop k || k == .call || isFunctionDeclaration k || k == .variableDeclarator then 3 else 2

/-- The calls within the visit of a function: its body is gone through for loops, and for calls whose
names are read. -/
def checkDepth (k : Kind) : Nat := if isFunctionDeclaration k then 7 else 0

mutual

/-- The calls that are open within the deepest visit below a tree, its own included. -/
def visitDepth : Tree → Nat
  | .leaf kind _ _ => Nat.max (checkDepth kind) (visitCost kind)
  | .node kind children => Nat.max (checkDepth kind) (visitCost kind + visitDepthAll children)

def visitDepthAll : List (Option Field × Tree) → Nat
  | [] => 0
  | c :: rest => Nat.max (if c.2.isNamed then visitDepth c.2 else 0) (visitDepthAll rest)

end

structure CallStack where
  /-- A program starts with one. -/
  inUse : Nat := 1
  limit : Nat := 1000
  deriving DecidableEq

namespace CallStack

def enter (s : CallStack) (calls : Nat) : CallStack := { s with inUse := s.inUse + calls }

/-- The stack of a worker, on which only what makes it work is open. -/
def worker (s : CallStack) : CallStack := { s with inUse := 5 }

def holds (s : CallStack) (t : Tree) : Bool := s.inUse + visitDepth t ≤ s.limit

end CallStack

/-- What a program says, unless its tree is too deep to visit on a stack. -/
def ofTree? (s : CallStack) (t : Tree) : Option Signals := if s.holds t then some (visit {} t) else none

end Footprint.Signals
