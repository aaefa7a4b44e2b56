import Footprint.Proofs.Syntax.Walk
import Footprint.Signals
import Mathlib.Data.List.Induction

/-! What a visit counts. It enters the tree that it starts at and the named trees below, in the order in
which they are written, and each counter is the sum of what these say by themselves. -/
namespace Footprint

open Syntax

namespace Syntax.Tree

open Signals

def entered (t : Tree) : List Tree := t :: (preorderAll t.children).filter isNamed

theorem entered_eq {t : Tree} (named : t.isNamed = true) : t.entered = t.preorder.filter isNamed := by
  simp [entered, preorder_eq_cons, named]

/-! ### Constructs -/

def iterates (t : Tree) : Bool :=
  t.kind == .call && (t.child? .callee).any fun callee =>
    callee.kind == .member && (callee.child? .property).any fun name =>
      ["map", "filter", "forEach", "reduce", "push", "concat"].contains name.text

def declared? (t : Tree) : Option (String × Tree) :=
  if t.kind == .functionDeclaration || t.kind == .generatorFunctionDeclaration then
    (t.child? .name).bind fun name => (t.child? .body).bind fun body =>
      if name.text = "" then none else some (name.text, body)
  else none

def nestsLoops (t : Tree) : Bool :=
  t.declared?.any fun d => 2 ≤ d.2.preorder.countP fun u =>
    u.kind == .forStatement || u.kind == .forInStatement || u.kind == .whileStatement

def callsItself (t : Tree) : Bool :=
  t.declared?.any fun d => d.2.preorder.any fun u => u.kind == .call && u.calledName? == some d.1

def allocates (t : Tree) : Bool :=
  t.kind == .variableDeclarator && (t.child? .value).any fun v => v.kind == .array || v.kind == .object

def loopTerm? (t : Tree) : Option Binary64 :=
  if t.kind == .forStatement || t.kind == .forInStatement || t.kind == .whileStatement ||
      t.kind == .doStatement then some 1.0
  else if t.iterates then some 0.5
  else none

/-! The kinds and weights by the names that the counters have for them. -/

variable (t : Tree)

theorem declared?_def : t.declared? =
    if isFunctionDeclaration t.kind then
      (t.child? .name).bind fun name => (t.child? .body).bind fun body =>
        if name.text = "" then none else some (name.text, body)
    else none := rfl

theorem nestsLoops_def : t.nestsLoops =
    t.declared?.any fun d => 2 ≤ d.2.preorder.countP fun u => isEntryLoop u.kind := rfl

theorem loopTerm?_def : t.loopTerm? =
    if isLoop t.kind then some loopWeight else if t.iterates then some iterationCallWeight else none := rfl

end Syntax.Tree

namespace Signals

open Tree Binary64

variable (s : Signals) (t : Tree)

/-! ### One tree -/

theorem kinds_apart (k : Kind) :
    (isLoop k = true → k ≠ .call ∧ isFunctionDeclaration k = false ∧ k ≠ .variableDeclarator) ∧
      (isFunctionDeclaration k = true → k ≠ .call ∧ k ≠ .variableDeclarator) := by
  cases k <;> decide

theorem entryLoops_eq : t.entryLoops = t.preorder.countP fun u => isEntryLoop u.kind := by
  rw [entryLoops, walk_eq_preorder, List.countP_eq_length_filter]

theorem calls_eq (name : String) :
    t.calls name = t.preorder.any fun u => u.kind == .call && u.calledName? == some name := by
  rw [calls, walk_eq_preorder]

theorem enterFunction_eq (h : isFunctionDeclaration t.kind = true) :
    s.enterFunction t =
      { s with
        nesting := if t.nestsLoops then s.nesting + nestingBonus else s.nesting
        recursion := if t.callsItself then s.recursion + recursionBonus else s.recursion
        recursive := s.recursive || t.callsItself } := by
  rw [nestsLoops_def, callsItself, declared?_def, if_pos h, enterFunction]
  cases t.child? .name with
  | none => simp
  | some name =>
    cases t.child? .body with
    | none => simp
    | some body =>
      by_cases empty : name.text = ""
      · simp [empty]
      · simp only [Option.map_some, Option.bind_some, Option.any_some, String.isEmpty_iff, empty, if_false,
          entryLoops_eq, calls_eq, Nat.succ_le_iff, decide_eq_true_eq]
        generalize body.preorder.any _ = called
        by_cases nested : 1 < body.preorder.countP fun u => isEntryLoop u.kind <;>
          cases called <;> simp [nested]

theorem iterates_eq (h : t.kind = .call) :
    (t.calledMember?.map iterationMethods.contains).getD false = t.iterates := by
  unfold iterates calledMember? memberProperty? iterationMethods
  cases t.child? .callee with
  | none => simp [h]
  | some callee =>
    cases property : callee.child? .property <;> by_cases member : callee.kind = .member <;>
      simp [h, member, property]

theorem allocates_eq (h : t.kind = .variableDeclarator) :
    ((t.child? .value).map fun v => isAllocation v.kind).getD false = t.allocates := by
  unfold allocates isAllocation
  cases t.child? .value <;> simp [h]

theorem enter_eq :
    s.enter t =
      { loops := t.loopTerm?.elim s.loops (s.loops + ·)
        nesting := if t.nestsLoops then s.nesting + nestingBonus else s.nesting
        recursion := if t.callsItself then s.recursion + recursionBonus else s.recursion
        allocation := if t.allocates then s.allocation + allocationWeight else s.allocation
        recursive := s.recursive || t.callsItself } := by
  rw [loopTerm?_def, enter]
  by_cases loop : isLoop t.kind = true
  · obtain ⟨call, function, variable'⟩ := (kinds_apart t.kind).1 loop
    simp [loop, nestsLoops_def, callsItself, declared?_def, function, allocates, variable']
  by_cases call : t.kind = .call
  · rw [iterates_eq t call]
    cases t.iterates <;>
      simp [isLoop, call, nestsLoops_def, callsItself, declared?_def, allocates, isFunctionDeclaration]
  have other : t.iterates = false := by simp [iterates, call]
  by_cases function : isFunctionDeclaration t.kind = true
  · obtain ⟨-, variable'⟩ := (kinds_apart t.kind).2 function
    simp [loop, call, function, other, enterFunction_eq s t function, allocates, variable']
  have undeclared : t.declared? = none := by simp [declared?_def, function]
  by_cases variable' : t.kind = .variableDeclarator
  · rw [allocates_eq t variable']
    cases t.allocates <;>
      simp [isLoop, isFunctionDeclaration, other, variable', nestsLoops_def, callsItself, undeclared]
  · simp [loop, call, function, other, variable', nestsLoops_def, callsItself, undeclared, allocates]

/-! ### All trees -/

mutual

def visitBy {σ : Type} (act : σ → Tree → σ) (s : σ) : Tree → σ
  | .leaf kind named content => act s (.leaf kind named content)
  | .node kind children => visitAllBy act (act s (.node kind children)) children

def visitAllBy {σ : Type} (act : σ → Tree → σ) (s : σ) : List (Option Field × Tree) → σ
  | [] => s
  | c :: rest => visitAllBy act (if c.2.isNamed then visitBy act s c.2 else s) rest

end

mutual

theorem visit_eq_visitBy (s : Signals) : (t : Tree) → s.visit t = visitBy enter s t
  | .leaf .. => by rw [visit, visitBy]
  | .node kind children => by rw [visit, visitBy, visitAll_eq_visitAllBy _ children]

theorem visitAll_eq_visitAllBy (s : Signals) :
    (children : List (Option Field × Tree)) → s.visitAll children = visitAllBy enter s children
  | [] => by rw [visitAll, visitAllBy]
  | (field, t) :: rest => by
    rw [visitAll, visitAllBy, visitAll_eq_visitAllBy _ rest, visit_eq_visitBy s t]

end

section

variable {σ : Type} (act : σ → Tree → σ)

mutual

theorem visitBy_eq_foldl (s : σ) : (t : Tree) → visitBy act s t = t.entered.foldl act s
  | .leaf _ _ _ => by simp [visitBy, entered, Tree.children, preorderAll]
  | .node kind children => by simp [visitBy, entered, Tree.children, visitAllBy_eq_foldl _ children]

theorem visitAllBy_eq_foldl (s : σ) :
    (children : List (Option Field × Tree)) →
      visitAllBy act s children = ((preorderAll children).filter isNamed).foldl act s
  | [] => by simp [visitAllBy, preorderAll]
  | (field, t) :: rest => by
    rw [visitAllBy, preorderAll, List.filter_append, List.foldl_append, visitAllBy_eq_foldl _ rest]
    split
    · next named => rw [visitBy_eq_foldl s t, entered_eq named]
    · next other =>
      -- A tree without a name of its own is a leaf.
      cases t with
      | leaf kind named text => simp_all [preorder, isNamed]
      | node => simp [isNamed] at other

end

end

theorem visit_eq_foldl : s.visit t = t.entered.foldl enter s := by
  rw [visit_eq_visitBy, visitBy_eq_foldl]

def tally (ts : List Tree) : Signals where
  loops := sum (ts.filterMap loopTerm?)
  nesting := sum ((ts.filter nestsLoops).map fun _ => nestingBonus)
  recursion := sum ((ts.filter callsItself).map fun _ => recursionBonus)
  allocation := sum ((ts.filter allocates).map fun _ => allocationWeight)
  recursive := ts.any callsItself

theorem sum_weights_concat (counts : Tree → Bool) (weight : Binary64) (ts : List Tree) :
    sum (((ts ++ [t]).filter counts).map fun _ => weight) =
      if counts t then sum ((ts.filter counts).map fun _ => weight) + weight
      else sum ((ts.filter counts).map fun _ => weight) := by
  cases counted : counts t with
  | false => simp [List.filter_append, counted]
  | true =>
    rw [List.filter_append, List.map_append, List.filter_cons, counted]
    exact sum_append_singleton _ weight

theorem sum_terms_concat (term? : Tree → Option Binary64) (ts : List Tree) :
    sum ((ts ++ [t]).filterMap term?) =
      (term? t).elim (sum (ts.filterMap term?)) (sum (ts.filterMap term?) + ·) := by
  cases term : term? t with
  | none => simp [List.filterMap_append, term]
  | some x =>
    rw [List.filterMap_append, List.filterMap_cons, term]
    exact sum_append_singleton _ x

theorem tally_concat (ts : List Tree) : tally (ts ++ [t]) = (tally ts).enter t := by
  simp only [enter_eq, tally, sum_weights_concat, sum_terms_concat, List.any_append, List.any_cons,
    List.any_nil, Bool.or_false]

theorem foldl_enter (ts : List Tree) : ts.foldl enter {} = tally ts := by
  induction ts using List.reverseRecOn with
  | nil => rfl
  | append_singleton ts t ih => rw [List.foldl_append, ih, List.foldl_cons, List.foldl_nil, tally_concat]

/-- A visit that is completed has counted each construct once, in the order in which they are written. -/
theorem counts_of_visited {stack : CallStack} {t : Tree} {s : Signals} (h : ofTree? stack t = some s) :
    s.loops = sum (t.entered.filterMap loopTerm?) ∧
      s.nesting = sum ((t.entered.filter nestsLoops).map fun _ => 0.8) ∧
      s.recursion = sum ((t.entered.filter callsItself).map fun _ => 1.5) ∧
      s.allocation = sum ((t.entered.filter allocates).map fun _ => 0.2) ∧
      (s.recursive = true ↔ ∃ u ∈ t.entered, u.callsItself = true) ∧
      (t.isNamed = true → t.entered = t.preorder.filter isNamed) := by
  unfold ofTree? at h
  split at h
  · rw [Option.some.injEq, visit_eq_foldl, foldl_enter] at h
    subst h
    exact ⟨rfl, rfl, rfl, rfl, List.any_eq_true, entered_eq⟩
  · cases h

def loopsAndCall : Tree :=
  .node .functionDeclaration
    [(some .name, .leaf .identifier true "f"),
      (some .body, .node .block [(none, .node .whileStatement []),
        (none, .node .forStatement [(none, .node .call [(some .callee, .leaf .identifier true "f")])])])]

theorem counts_of_loopsAndCall :
    ofTree? {} loopsAndCall = some ⟨2, 0.8, 1.5, 0, true⟩ ∧
      (2 : Binary64) = sum (loopsAndCall.entered.filterMap loopTerm?) ∧
      (0.8 : Binary64) = sum ((loopsAndCall.entered.filter nestsLoops).map fun _ => 0.8) ∧
      (1.5 : Binary64) = sum ((loopsAndCall.entered.filter callsItself).map fun _ => 1.5) := by
  have visited : ofTree? {} loopsAndCall = some ⟨2, 0.8, 1.5, 0, true⟩ := by decide +kernel
  obtain ⟨loops, nesting, recursion, -⟩ := counts_of_visited visited
  exact ⟨visited, loops, nesting, recursion⟩

end Signals
end Footprint
